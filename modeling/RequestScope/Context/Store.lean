import RequestScope.Context.Heap

/-!
# Named handles

A store is a set of cells together with handles that have names. Its operations are those of a
context: to make one, to share or to copy it, and to read and change its entries through any handle.
-/

namespace RequestScope

/-- The cells, the named handles, and the number of cells made so far. -/
structure Store where
  heap : Heap := .empty
  names : Dictionary Handle := .empty
  made : Nat := 0

/-- What can be done with named handles. -/
inductive Operation
  | create (name : String) (entries : Entries)
  | clone (source target : String)
  | fork (source target : String)
  | drop (name : String)
  | insert (name key : String) (value : Datum)
  | insertContext (name key source : String)
  | remove (name key : String)
  | get (name key : String)
  | getText (name key : String)
  | getAs (name key : String) (schema : Schema)
  | contains (name key : String)
  | requestId (name : String)
  | size (name : String)
  | isEmpty (name : String)
  | entries (name : String)
  | shares (name other : String)

inductive Reply
  | done
  | unknownName
  | failed (failure : Failure)
  | value (v : Option Json)
  | text (s : Option String)
  | typed (schema : Schema) (v : Option schema.Carrier)
  | flag (b : Bool)
  | count (n : Nat)
  | entries (e : Entries)

namespace Store

def create (s : Store) (name : String) (entries : Entries) : Store :=
  let h : Handle := ⟨0, s.made⟩
  ⟨s.heap.write h entries, s.names.insert name h, s.made + 1⟩

def write (s : Store) (h : Handle) (entries : Entries) : Store :=
  { s with heap := s.heap.write h entries }

/-- Stores a value behind a handle. A value that cannot be written changes nothing. -/
def insert (s : Store) (h : Handle) (key : String) (value : Datum) : Store × Reply :=
  match Entries.prepare key value with
  | .error failure => (s, .failed failure)
  | .ok json =>
    let before := s.heap.read h
    (s.write h (before.insert key json), .value (before.get? key))

/-- Works on the handle that a name stands for. -/
def withHandle (s : Store) (name : String) (work : Handle → Store × Reply) : Store × Reply :=
  match s.names.get? name with
  | none => (s, .unknownName)
  | some h => work h

/-- Answers a question about the entries behind a name, and changes nothing. -/
def ask (s : Store) (name : String) (answer : Entries → Reply) : Store × Reply :=
  s.withHandle name fun h => (s, answer (s.heap.read h))

/-- Carries out an operation. Only the making of a cell needs no handle. -/
def apply (s : Store) : Operation → Store × Reply
  | .create name entries => (s.create name entries, .done)
  | .clone source target =>
    s.withHandle source fun h => ({ s with names := s.names.insert target h }, .done)
  | .fork source target => s.withHandle source fun h => (s.create target (s.heap.read h), .done)
  | .drop name => s.withHandle name fun _ => ({ s with names := s.names.erase name }, .done)
  | .insert name key value => s.withHandle name fun h => s.insert h key value
  | .insertContext name key source =>
    s.withHandle name fun h => s.withHandle source fun other =>
      s.insert h key (.json (.ofDictionary (s.heap.read other)))
  | .remove name key =>
    s.withHandle name fun h =>
      let before := s.heap.read h
      (s.write h (before.erase key), .value (before.get? key))
  | .get name key => s.ask name fun entries => .value (entries.get? key)
  | .getText name key => s.ask name fun entries => .text (entries.text? key)
  | .getAs name key schema =>
    s.ask name fun entries =>
      match entries.read key schema with
      | .ok v => .typed schema v
      | .error failure => .failed failure
  | .contains name key => s.ask name fun entries => .flag (entries.contains key)
  | .requestId name => s.ask name fun entries => .text entries.requestId?
  | .size name => s.ask name fun entries => .count entries.size
  | .isEmpty name => s.ask name fun entries => .flag entries.isEmpty
  | .entries name => s.ask name .entries
  | .shares name other =>
    s.withHandle name fun h => s.withHandle other fun h' => (s, .flag (decide (h = h')))

def run (s : Store) : List Operation → Store × List Reply
  | [] => (s, [])
  | operation :: rest =>
    let (s, reply) := s.apply operation
    let (s, replies) := s.run rest
    (s, reply :: replies)

/-- The entries behind every name. -/
def contents (s : Store) : Dictionary Entries := s.names.map s.heap.read

end Store

end RequestScope
