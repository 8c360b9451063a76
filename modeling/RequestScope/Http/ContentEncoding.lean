import RequestScope.Compression.Gzip
import RequestScope.Compression.Unpackers
import RequestScope.Compression.Zlib
import RequestScope.Http.Header
import RequestScope.Text.Blank

/-!
# Encodings of bodies

A body may have been compressed before it was sent, and a header names the way. A name that is not
known means that the body stands as it is.
-/

namespace RequestScope.Http

/-- How a body was encoded. -/
inductive ContentEncoding
  | identity
  | gzip
  | deflate
  | brotli
  | zstandard
deriving Repr, DecidableEq

def contentEncoding : HeaderName := ⟨"content-encoding"⟩

namespace ContentEncoding

def ofName (name : String) : ContentEncoding :=
  match String.ofList ((Text.trim name).toList.map Char.toLower) with
  | "gzip" => .gzip
  | "deflate" => .deflate
  | "br" => .brotli
  | "zstd" => .zstandard
  | _ => .identity

def ofHeaders (headers : Headers) : ContentEncoding :=
  ((headers.first? contentEncoding).bind HeaderValue.toText?).elim .identity ofName

/-- The octets that were encoded, as the readers of their format have it. -/
def decode (encoding : ContentEncoding) (unpackers : Compression.Unpackers) (body : List UInt8) :
    Except Compression.Fault Compression.Unpacked :=
  match encoding with
  | .identity => .ok ⟨body, none⟩
  | .gzip => Compression.Gzip.unpack body
  | .deflate => Compression.Zlib.unpack body
  | .brotli => unpackers.brotli body
  | .zstandard => unpackers.zstandard body

end ContentEncoding

end RequestScope.Http
