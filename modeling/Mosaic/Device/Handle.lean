import Mosaic.Vertex.Bytes

/-!
# Device resources

A device hands out numbers for what it makes: meshes, programs, draw states and textures. A
`DrawCall` names a draw state and a texture and the number of vertices to draw, `Resource` names
anything that can be destroyed, and `ResourceSet` the four resources that a canvas holds.
-/

namespace Mosaic

/-- A store of vertices. -/
structure MeshId where
  id : Nat
  deriving DecidableEq, Repr, Inhabited

/-- A program that places and colours vertices. -/
structure ProgramId where
  id : Nat
  deriving DecidableEq, Repr, Inhabited

/-- A mesh bound to a program. -/
structure DrawStateId where
  id : Nat
  deriving DecidableEq, Repr, Inhabited

/-- The image of a sheet. -/
structure TextureId where
  id : Nat
  deriving DecidableEq, Repr, Inhabited

/-- The kinds of resources. -/
inductive ResourceKind where
  | mesh
  | program
  | drawState
  | texture
  deriving DecidableEq, Repr

/-- The name of a kind in the text of an injected failure. -/
def ResourceKind.name : ResourceKind → String
  | .mesh => "Mesh"
  | .program => "Program"
  | .drawState => "DrawState"
  | .texture => "Texture"

/-- Any resource of a device. -/
inductive Resource where
  | mesh (id : MeshId)
  | program (id : ProgramId)
  | drawState (id : DrawStateId)
  | texture (id : TextureId)
  deriving DecidableEq, Repr

namespace MeshId

def text (m : MeshId) : String :=
  let n := m.id
  s!"mesh#{n}"

end MeshId

namespace ProgramId

def text (p : ProgramId) : String :=
  let n := p.id
  s!"program#{n}"

end ProgramId

namespace DrawStateId

/-- The text of a draw state. -/
def text (d : DrawStateId) : String :=
  let n := d.id
  s!"draw-state#{n}"

end DrawStateId

namespace TextureId

def text (t : TextureId) : String :=
  let n := t.id
  s!"texture#{n}"

end TextureId

/-- The text of a resource: its kind and its number. -/
def Resource.text : Resource → String
  | .mesh id => id.text
  | .program id => id.text
  | .drawState id => id.text
  | .texture id => id.text

/-- What a mesh must be able to hold. -/
structure MeshLayout where
  vertices : Nat
  /-- The number of bytes of a vertex. -/
  stride : Nat
  deriving DecidableEq, Repr

/-- The number of bytes of a mesh, a number of 64 bits. -/
def MeshLayout.byteSize (layout : MeshLayout) : Except Fault Nat :=
  Bounded.mul .bits64 layout.vertices layout.stride

/-- The request to draw the first vertices of a draw state's mesh with a texture. -/
structure DrawCall where
  drawState : DrawStateId
  texture : TextureId
  vertices : Nat
  deriving DecidableEq, Repr

/-- The resources that a canvas holds. -/
structure ResourceSet where
  mesh : MeshId
  program : ProgramId
  drawState : DrawStateId
  texture : TextureId
  deriving DecidableEq, Repr

end Mosaic
