import Stencil.Cache.Canonical
import Stencil.Digest.Sha256
import Stencil.Fault

/-!
# Keys of rendered pages

The key of a page is a digest of the path of its template, of the time the template was last changed,
and of a digest of the data's canonical text. Data that is nested too deeply has no key, and neither has
data without a canonical text. How deep is too deep depends on the room that the surroundings leave.
-/

namespace Stencil.Cache

/-- What the key is a digest of. -/
def keyMaterial (path : String) (changed : Value) (dataDigest : String) : String :=
  path ++ "\x00" ++ changed.inspect ++ "\x00" ++ dataDigest

/-- The key of the page that the template at `path`, last changed at `changed`, gives for `data`, which is nested
at most `room` deep. -/
def key (path : String) (changed data : Value) (room : Nat := Value.usualDepth) : Except Fault String :=
  if room < data.depth then .error .tooDeep
  else
    match data.unkeyed?.or changed.unshown? with
    | some u => .error (.unwritten u)
    | none => .ok (Sha256.ofText (keyMaterial path changed (Sha256.ofText data.canonical)))

end Stencil.Cache
