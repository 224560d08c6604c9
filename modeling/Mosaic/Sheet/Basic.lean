import Mosaic.Num.Binary32
import Mosaic.Sheet.Image

/-!
# Sprite sheets

A `Sheet` is all that a canvas asks of a sprite sheet: how many sprites there are, which sprite a
character stands for, where a sprite lies on the image, and the image itself. Sprites are numbered
from zero, and those below the count are on the sheet (`Sheet.Contains`). The absence of a sprite
is `none`, never a number.
-/

namespace Mosaic

/-- The number of a sprite on its sheet, a number of 16 bits. -/
structure SpriteId where
  index : Nat
  deriving DecidableEq, Repr, Inhabited

/-- The corners of a sprite on its sheet in texture coordinates, top-left first. -/
structure UvRect where
  u0 : Binary32
  v0 : Binary32
  u1 : Binary32
  v1 : Binary32
  deriving DecidableEq, Repr, Inhabited

/-- All that a canvas asks of a sprite sheet. -/
structure Sheet where
  count : Nat
  /-- The sprite that a character of a map stands for; `none` leaves the tile empty. -/
  spriteFor : Char → Option SpriteId
  /-- The texture coordinates of a sprite. -/
  uv : SpriteId → Except Fault UvRect
  /-- The pixels of the texture. -/
  image : Image

namespace Sheet

/-- A sprite is on the sheet. -/
def Contains (sheet : Sheet) (id : SpriteId) : Prop := id.index < sheet.count

instance (sheet : Sheet) (id : SpriteId) : Decidable (sheet.Contains id) :=
  inferInstanceAs (Decidable (_ < _))

/-- Refuses a sprite that is not on the sheet. -/
def check (sheet : Sheet) (id : SpriteId) : Except Fault Unit :=
  if sheet.Contains id then .ok () else .error (.offSheet id.index sheet.count)

/-- Refuses a sprite that is not on the sheet; no sprite at all is never refused. -/
def checkOption (sheet : Sheet) : Option SpriteId → Except Fault Unit
  | none => .ok ()
  | some id => sheet.check id

theorem check_eq_ok_iff {sheet : Sheet} {id : SpriteId} :
    sheet.check id = .ok () ↔ sheet.Contains id := by
  unfold check
  split <;> simp_all

theorem checkOption_eq_ok_iff {sheet : Sheet} {sprite : Option SpriteId} :
    sheet.checkOption sprite = .ok () ↔ ∀ id ∈ sprite, sheet.Contains id := by
  cases sprite <;> simp [checkOption, check_eq_ok_iff]

end Sheet

end Mosaic
