/-!
# Versions of the interface

A version packs a variant, a major, a minor and a patch number into 32 bits.

## Main definitions

* `ApiVersion.major`, `ApiVersion.minor` — its parts.
* `ApiVersion.ofRequest` — the version an instance runs at.
-/

namespace HandleLayer

/-- A version of the interface. -/
abbrev ApiVersion := UInt32

namespace ApiVersion

/-- The variant of the interface, in the top three bits. -/
def variant (v : ApiVersion) : UInt32 := v >>> 29

/-- The major number, seven bits wide. -/
def major (v : ApiVersion) : UInt32 := (v >>> 22) &&& 0x7f

/-- The minor number, ten bits wide. -/
def minor (v : ApiVersion) : UInt32 := (v >>> 12) &&& 0x3ff

/-- The version with these parts and no patch number. -/
def pack (variant major minor : UInt32) : ApiVersion :=
  (variant <<< 29) ||| (major <<< 22) ||| (minor <<< 12)

/-- The first version of the interface. -/
def first : ApiVersion := pack 0 1 0

/-- The version of an instance: what the application asked for without the patch number,
or the first version when it asked for nothing. -/
def ofRequest (requested : ApiVersion) : ApiVersion :=
  let v := if requested = 0 then first else requested
  pack (variant v) (major v) (minor v)

/-- Major and minor number with a point between them. -/
def text (v : ApiVersion) : String := toString (major v) ++ "." ++ toString (minor v)

end ApiVersion

end HandleLayer
