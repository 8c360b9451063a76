import RequestScope.Service.Basic

/-!
# Normal paths

The layer outside all others trims slashes at the end of a path and merges runs of slashes. The
query stays as it is.
-/

namespace RequestScope

/-- The characters with every run of slashes merged into one. -/
def mergeSlashes : List Char → List Char
  | [] => []
  | '/' :: rest => if rest.head? == some '/' then mergeSlashes rest else '/' :: mergeSlashes rest
  | c :: rest => c :: mergeSlashes rest

def trimSlashes (cs : List Char) : List Char := (cs.reverse.dropWhile (· == '/')).reverse

/-- The normal form of a path. A path of slashes only is the root, and a path that is missing stays
so. -/
def normalizePath (path : String) : String :=
  if path.isEmpty then path
  else
    let cs := mergeSlashes (trimSlashes path.toList)
    if cs.isEmpty then "/" else String.ofList cs

def Http.Request.normalize (request : Http.Request) : Http.Request :=
  { request with target := { request.target with path := normalizePath request.target.path } }

def normalizeLayer (inner : Service) : Service := fun request => inner request.normalize

end RequestScope
