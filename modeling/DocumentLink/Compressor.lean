/-!
# Compressors

How messages may be packed. The client lists the compressors it can use, in the
order it likes them, and the server answers with those it accepts. The first of
the client's list that the server accepts is used.

A level is for the packing itself and plays no part in the choice.

## Main definitions

* `Compressor`: The compressors a client may ask for.
* `Compressor.ofName?`: The compressor with a name, at its usual level.
* `Compressor.names`: Names with commas between them.
* `Compressor.negotiate?`: The compressor both sides agree on.
-/

namespace DocumentLink

/-- The compressors a client may ask for. -/
inductive Compressor where
  | snappy
  | zlib (level : Option Int)
  | zstd (level : Option Int)
  deriving DecidableEq, Repr

namespace Compressor

/-- The name used in the handshake. -/
def name : Compressor → String
  | snappy => "snappy"
  | zlib _ => "zlib"
  | zstd _ => "zstd"

/-- The level asked for. -/
def level? : Compressor → Option Int
  | snappy => none
  | zlib level | zstd level => level

/-- The compressor with a name, at its usual level. -/
def ofName? (name : String) : Option Compressor :=
  [snappy, zlib none, zstd none].find? fun c => c.name = name

/-- Set the level, where there is one. -/
def withLevel (level : Option Int) : Compressor → Compressor
  | snappy => snappy
  | zlib _ => zlib level
  | zstd _ => zstd level

/-- Names with commas between them. -/
def names (compressors : List Compressor) : String :=
  ",".intercalate (compressors.map name)

/-- The first requested compressor that is accepted. -/
def negotiate? (requested : List Compressor) (accepted : List String) : Option Compressor :=
  requested.find? fun c => accepted.contains c.name

end Compressor

end DocumentLink
