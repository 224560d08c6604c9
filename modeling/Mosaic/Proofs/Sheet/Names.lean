import Mosaic.Sheet.Grid

/-!
# The names on a grid sheet

What comes of cutting an image is decided by the sizes alone (`cut_eq`). `GridSheet.Built` says that
a grid sheet was cut from an image and then given names one at a time, which is how every grid sheet
comes about: `mapText` and `mapAll` give names one after the other. On such a sheet a name leads to
a sprite of the sheet (`closed_of_built`). A sheet in general makes no such promise, and
`Sheet.Closed` says which ones do. A `Naming` is one request for names, which the sheet may refuse;
`GridSheet.named` is the sheet after any requests.
-/

namespace Mosaic

/-- Every name on the sheet leads to a sprite of the sheet. -/
def Sheet.Closed (sheet : Sheet) : Prop :=
  ∀ name id, sheet.spriteFor name = some id → sheet.Contains id

theorem Sheet.Closed.checkOption {sheet : Sheet} (h : sheet.Closed) (name : Char) :
    sheet.checkOption (sheet.spriteFor name) = .ok () :=
  checkOption_eq_ok_iff.2 fun id hid => h name id hid

namespace GridSheet

/-- A grid sheet that was cut from an image and then given names one at a time. -/
inductive Built : GridSheet → Prop
  | cut {image : Image} {width height : Nat} {g : GridSheet}
      (h : GridSheet.cut image width height = .ok (.ok g)) : Built g
  | map {g named : GridSheet} {name : Char} {id : SpriteId} (hg : Built g)
      (h : g.map name id = .ok named) : Built named

theorem map_eq_ok_iff {g named : GridSheet} {name : Char} {id : SpriteId} :
    g.map name id = .ok named ↔
      g.toSheet.Contains id ∧ named = { g with names := g.names.insert name id } := by
  rw [← Sheet.check_eq_ok_iff]
  cases h : g.toSheet.check id with
  | error fault => simp [GridSheet.map, h, bind, Except.bind]
  | ok u => simp [GridSheet.map, h, bind, Except.bind, pure, Except.pure, eq_comm]

/-- A cell of the given size is neither empty nor larger than the image, and there is a sprite
number for each cell. -/
def Divides (image : Image) (width height : Nat) : Prop :=
  ((1 ≤ width ∧ width ≤ image.width) ∧ 1 ≤ height ∧ height ≤ image.height) ∧
    image.width / width * (image.height / height) ≤ maxSprites

instance (image : Image) (width height : Nat) : Decidable (Divides image width height) :=
  inferInstanceAs (Decidable (_ ∧ _))

/-- Cells that can be counted make a sheet when they divide the image. A cell of no size or one that
is larger than the image leaves no cells to count. -/
theorem cut_eq (image : Image) (width height : Nat) :
    cut image width height =
      if image.width / width * (image.height / height) < Bounded.Width.bits32.count then
        if Divides image width height then
          .ok (.ok ⟨image, width, height, image.width / width, image.height / height, .empty⟩)
        else .ok (.error (.invalidSpriteSize width height))
      else .error (.overflow .multiply) := by
  unfold cut
  split
  case isTrue h =>
    have hnone : image.width / width * (image.height / height) = 0 := by
      rw [Nat.mul_eq_zero, Nat.div_eq_zero_iff, Nat.div_eq_zero_iff]
      omega
    rw [hnone, if_pos (by decide), if_neg]
    rintro ⟨hsides, -⟩
    omega
  case isFalse h =>
    have hsides : (1 ≤ width ∧ width ≤ image.width) ∧ 1 ≤ height ∧ height ≤ image.height := by omega
    have hdivides : Divides image width height ↔
        image.width / width * (image.height / height) ≤ maxSprites := and_iff_right hsides
    dsimp only [Bounded.mul, Bounded.unsigned]
    by_cases hcount : image.width / width * (image.height / height) < Bounded.Width.bits32.count
    · rw [if_pos hcount, if_pos hcount]
      by_cases hcells : image.width / width * (image.height / height) ≤ maxSprites
      · rw [if_pos (hdivides.2 hcells)]
        simp only [bind, Except.bind, if_neg (Nat.not_lt.2 hcells)]
        rfl
      · rw [if_neg (mt hdivides.1 hcells)]
        simp only [bind, Except.bind, if_pos (Nat.not_le.1 hcells)]
        rfl
    · rw [if_neg hcount, if_neg hcount]
      rfl

/-- An image is cut when a cell is neither empty nor larger than it and there are not too many. -/
theorem cut_eq_ok_iff {image : Image} {width height : Nat} {g : GridSheet} :
    cut image width height = .ok (.ok g) ↔
      ((0 < width ∧ width ≤ image.width) ∧ 0 < height ∧ height ≤ image.height) ∧
        image.width / width * (image.height / height) ≤ maxSprites ∧
        g = ⟨image, width, height, image.width / width, image.height / height, .empty⟩ := by
  rw [cut_eq, ← and_assoc]
  by_cases hdivides : Divides image width height
  · rw [if_pos (Nat.lt_of_le_of_lt hdivides.2 (by decide)), if_pos hdivides]
    simp only [Except.ok.injEq, eq_comm]
    exact (and_iff_right hdivides).symm
  · rw [if_neg hdivides]
    refine ⟨fun h => ?_, fun h => absurd h.1 hdivides⟩
    split at h <;> cases h

theorem names_of_cut {image : Image} {width height : Nat} {g : GridSheet}
    (h : cut image width height = .ok (.ok g)) : g.names = .empty := by
  obtain ⟨-, -, rfl⟩ := cut_eq_ok_iff.1 h
  rfl

theorem closed_of_built {g : GridSheet} (h : g.Built) : g.toSheet.Closed := by
  induction h with
  | cut h =>
      intro name id hid
      change Table.get? _ name = some id at hid
      rw [names_of_cut h, Table.get?_empty] at hid
      cases hid
  | @map g named name id hg h ih =>
      obtain ⟨hid, rfl⟩ := map_eq_ok_iff.1 h
      intro other sprite hsprite
      change Table.get? (g.names.insert name id) other = some sprite at hsprite
      by_cases ho : other = name
      · subst ho
        rw [Table.get?_insert_self] at hsprite
        cases hsprite
        exact hid
      · rw [Table.get?_insert_of_ne ho] at hsprite
        exact ih other sprite hsprite

/-! ### Requests for names -/

/-- A request to name one sprite, or consecutive sprites by the characters of a text. -/
inductive Naming where
  | char (name : Char) (id : SpriteId)
  | text (names : List Char) (first : SpriteId)

/-- The sheet after a request. One that is refused leaves the sheet as it was. -/
def answer (g : GridSheet) : Naming → GridSheet
  | .char name id => (g.mapAll [(name, id)]).1
  | .text names first =>
    match g.mapText names first with
    | .ok named => named
    | .error _ => g

/-- The sheet after requests. -/
def named (g : GridSheet) (namings : List Naming) : GridSheet := namings.foldl answer g

section Keeps

-- what giving one name keeps, every request for names keeps
variable {P : GridSheet → Prop}
  (hmap : ∀ {g named : GridSheet} {name : Char} {id : SpriteId}, P g → g.map name id = .ok named →
    P named)

include hmap

theorem mapFrom_keeps {first : SpriteId} :
    ∀ {names : List Char} {g named : GridSheet} {place : Nat}, P g →
      g.mapFrom first place names = .ok named → P named
  | [], g, named, place, hg, h => by
      cases h
      exact hg
  | name :: rest, g, named, place, hg, h => by
      unfold mapFrom at h
      cases hid : Bounded.add .bits16 first.index (place % 65536) with
      | error fault => simp [hid, bind, Except.bind] at h
      | ok id =>
          cases hnext : g.map name ⟨id⟩ with
          | error fault => simp [hid, hnext, bind, Except.bind] at h
          | ok next =>
              simp only [hid, hnext, bind, Except.bind] at h
              exact mapFrom_keeps (hmap hg hnext) h

theorem mapAll_keeps {entries : List (Char × SpriteId)} :
    ∀ {g : GridSheet}, P g → P (g.mapAll entries).1 := by
  induction entries with
  | nil => exact fun hg => hg
  | cons entry rest ih =>
      intro g hg
      obtain ⟨name, id⟩ := entry
      unfold mapAll
      cases hnext : g.map name id with
      | error fault => exact hg
      | ok named => exact ih (hmap hg hnext)

theorem named_keeps {g : GridSheet} (hg : P g) (namings : List Naming) : P (g.named namings) := by
  induction namings generalizing g with
  | nil => exact hg
  | cons naming namings ih =>
      refine ih ?_
      cases naming with
      | char name id => exact mapAll_keeps hmap hg
      | text names first =>
          simp only [answer]
          split
          · rename_i named hnamed
            exact mapFrom_keeps hmap hg hnamed
          · exact hg

end Keeps

theorem built_mapText {g named : GridSheet} {names : List Char} {first : SpriteId} (hg : g.Built)
    (h : g.mapText names first = .ok named) : named.Built := mapFrom_keeps .map hg h

theorem built_mapAll {entries : List (Char × SpriteId)} {g : GridSheet} (hg : g.Built) :
    (g.mapAll entries).1.Built := mapAll_keeps .map hg

theorem built_named {g : GridSheet} (hg : g.Built) (namings : List Naming) :
    (g.named namings).Built := named_keeps .map hg namings

theorem image_named (g : GridSheet) (namings : List Naming) :
    (g.named namings).image = g.image := by
  refine named_keeps (P := fun named => named.image = g.image) ?_ rfl namings
  intro other named name id hother h
  obtain ⟨-, rfl⟩ := map_eq_ok_iff.1 h
  exact hother

end GridSheet

end Mosaic
