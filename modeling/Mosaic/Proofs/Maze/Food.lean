import Mathlib.Data.List.Forall2
import Mosaic.Proofs.Maze.Tick
import Mosaic.Proofs.Sheet.Pixels

/-!
# The food on the tiles

The tiles of the maze are compared with the text of the level, character by character: a tile
`Holds` a character when it shows the sprite of the character, or when the character is food and the
tile is empty. As long as all tiles do, those that are not empty are the walls and the food that is
left. Emptying a tile with food and copying the whole text both keep this up.
-/

namespace Mosaic

/-- An image whose bytes can be numbered and addressed has the size that was asked for. -/
theorem Image.exists_paint {width height : Nat}
    (h : width * height * 4 < Bounded.addressable) (colour : Nat → Nat → Pixel) :
    ∃ bytes, paint width height colour = .ok ⟨width, height, bytes⟩ := by
  have hmade := generate_eq (fun x y => (pure (colour x y) : StateM Unit Pixel)) h ()
  rw [paint, hmade]
  exact ⟨_, rfl⟩

namespace Sprites

theorem exists_image : ∃ bytes, image = .ok ⟨64, 8, bytes⟩ := Image.exists_paint (by decide) colour

/-- The sheet of the maze has eight sprites, and the characters of the level have names. -/
theorem exists_sheet : ∃ bytes, sheet = .ok (.ok ⟨⟨64, 8, bytes⟩, 8, 8, 8, 1,
    ⟨[('-', door), ('o', pill), ('.', dot), ('#', wall)]⟩⟩) := by
  obtain ⟨bytes, himage⟩ := exists_image
  refine ⟨bytes, ?_⟩
  rw [sheet, himage]
  with_unfolding_all rfl

end Sprites

namespace Level

/-- The sprite that a character of the level stands for. -/
def sprite? (character : Char) : Option SpriteId := Table.lookup character Sprites.names

theorem sprite?_of_sheet {g : GridSheet} (h : Sprites.sheet = .ok (.ok g)) :
    g.toSheet.spriteFor = sprite? := by
  obtain ⟨bytes, hsheet⟩ := Sprites.exists_sheet
  rw [hsheet] at h
  cases h
  funext character
  simp only [GridSheet.toSheet, GridSheet.spriteFor, Table.get?, sprite?, Table.lookup,
    Sprites.names]
  grind

theorem count_of_sheet {g : GridSheet} (h : Sprites.sheet = .ok (.ok g)) : g.toSheet.count = 8 := by
  obtain ⟨bytes, hsheet⟩ := Sprites.exists_sheet
  rw [hsheet] at h
  cases h
  rfl

theorem closed_of_sheet {g : GridSheet} (h : Sprites.sheet = .ok (.ok g)) : g.toSheet.Closed := by
  intro name id hid
  rw [sprite?_of_sheet h] at hid
  rw [Sheet.Contains, count_of_sheet h]
  simp only [sprite?, Table.lookup, Sprites.names] at hid
  repeat' split at hid
  all_goals cases hid
  all_goals decide

open World in
/-- A character blocks the way, is food, or stands for no sprite. -/
theorem sprite?_cases (character : Char) :
    (Blocks character ∧ ¬ IsFood character ∧ (sprite? character).isSome ∧
        ¬ ShowsFood (sprite? character)) ∨
      (IsFood character ∧ ¬ Blocks character ∧ (sprite? character).isSome ∧
        ShowsFood (sprite? character)) ∨
      (¬ Blocks character ∧ ¬ IsFood character ∧ sprite? character = none) := by
  by_cases hblocks : Blocks character
  · left
    rcases hblocks with rfl | rfl
    · decide
    · decide
  · right
    by_cases hfood : IsFood character
    · left
      rcases hfood with rfl | rfl
      · decide
      · decide
    · right
      refine ⟨hblocks, hfood, ?_⟩
      simp only [Blocks, IsFood, not_or] at hblocks hfood
      simp [sprite?, Sprites.names, Table.lookup, Ne.symm, hblocks, hfood]

/-- A tile shows the sprite of a character, or it is empty and the character is food. -/
def Holds (character : Char) (sprite : Option SpriteId) : Prop :=
  sprite = sprite? character ∨ IsFood character ∧ sprite = none

theorem forall₂_holds_sprite? (text : List Char) : List.Forall₂ Holds text (text.map sprite?) := by
  rw [List.forall₂_map_right_iff, List.forall₂_same]
  exact fun character _ => .inl rfl

open World in
theorem Holds.isFood {character : Char} {sprite : Option SpriteId} (h : Holds character sprite)
    (hshows : ShowsFood sprite) : IsFood character := by
  rcases h with rfl | ⟨hfood, -⟩
  · rcases sprite?_cases character with ⟨-, -, -, hnot⟩ | ⟨hf, -⟩ | ⟨-, -, hnone⟩
    · exact absurd hshows hnot
    · exact hf
    · rw [hnone] at hshows
      exact absurd hshows (by decide)
  · exact hfood

section Counting

open World

variable {text : List Char} {tiles : List (Option SpriteId)}

/-- The tiles that are not empty are the walls and the food that is left. -/
theorem countP_isSome (h : List.Forall₂ Holds text tiles) :
    tiles.countP Option.isSome =
      text.countP (fun c => Blocks c) + tiles.countP (fun sprite => ShowsFood sprite) := by
  induction h with
  | nil => rfl
  | @cons character sprite text tiles hholds htiles ih =>
      simp only [List.countP_cons, ih]
      have hcases := sprite?_cases character
      rcases hholds with rfl | ⟨hfood, rfl⟩
      · rcases hcases with ⟨hb, hf, hsome, hshows⟩ | ⟨hf, hb, hsome, hshows⟩ | ⟨hb, hf, hnone⟩
        · simp only [hb, hsome, hshows, decide_true, decide_false, if_true, Bool.false_eq_true,
            if_false]
          omega
        · simp only [hb, hsome, hshows, decide_true, decide_false, if_true, Bool.false_eq_true,
            if_false]
          omega
        · simp [hb, hnone, ShowsFood]
      · rcases hcases with ⟨-, hf, -⟩ | ⟨-, hb, -⟩ | ⟨-, hf, -⟩
        · exact absurd hfood hf
        · simp [hb, ShowsFood]
        · exact absurd hfood hf

theorem countP_showsFood_le (h : List.Forall₂ Holds text tiles) :
    tiles.countP (fun sprite => ShowsFood sprite) ≤ text.countP (fun c => IsFood c) := by
  induction h with
  | nil => exact Nat.le_refl 0
  | @cons character sprite text tiles hholds htiles ih =>
      simp only [List.countP_cons]
      by_cases hshows : ShowsFood sprite
      · simp only [hshows, hholds.isFood hshows, decide_true, if_true]
        omega
      · simp only [hshows, decide_false, Bool.false_eq_true, if_false]
        omega

/-- All food is back on tiles that show the text. -/
theorem countP_showsFood_map (text : List Char) :
    (text.map sprite?).countP (fun sprite => ShowsFood sprite) =
      text.countP fun c => IsFood c := by
  rw [List.countP_map]
  refine List.countP_congr fun character _ => ?_
  rcases sprite?_cases character with ⟨-, hf, -, hshows⟩ | ⟨hf, -, -, hshows⟩ | ⟨-, hf, hnone⟩
  · simp [hf, hshows]
  · simp [hf, hshows]
  · simp [hf, hnone, ShowsFood]

/-- A tile with food may be emptied. -/
theorem forall₂_holds_set (h : List.Forall₂ Holds text tiles) {i : Nat}
    (hfood : ∀ sprite, tiles[i]? = some sprite → ShowsFood sprite) :
    List.Forall₂ Holds text (tiles.set i none) := by
  induction h generalizing i with
  | nil => exact .nil
  | @cons character sprite text tiles hholds htiles ih =>
      cases i with
      | zero => exact .cons (.inr ⟨hholds.isFood (hfood sprite rfl), rfl⟩) htiles
      | succ i => exact .cons hholds (ih fun c hc => hfood c (by simpa using hc))

theorem countP_showsFood_set {i : Nat} (hi : i < tiles.length) (hfood : ShowsFood tiles[i]) :
    (tiles.set i none).countP (fun sprite => ShowsFood sprite) + 1 =
      tiles.countP fun sprite => ShowsFood sprite := by
  have hpositive : 0 < tiles.countP fun sprite => ShowsFood sprite :=
    List.countP_pos_iff.2 ⟨tiles[i], List.getElem_mem hi, by simpa using hfood⟩
  have hnone : ¬ ShowsFood none := by decide
  rw [List.countP_set hi]
  simp only [hfood, hnone, decide_true, decide_false, if_true, Bool.false_eq_true, if_false]
  omega

end Counting

end Level

namespace World

/-! ### The grid of the maze -/

/-- The geometry of the canvas that shows the maze. -/
def mazeConfig : Config := ⟨Level.columns, Level.rows, Sprites.side, Sprites.side, 4⟩

theorem cells_mazeConfig : mazeConfig.cells = Level.text.length := Level.length_text.symm

theorem index_mazeConfig (x y : Int) : mazeConfig.index x y = y.toNat * 19 + x.toNat := rfl

theorem valid_mazeConfig : mazeConfig.Valid := Config.validate_eq_ok_iff.1 rfl

theorem cells_le_size {canvas : Canvas} (h : canvas.Sound) :
    mazeConfig.cells ≤ canvas.tiles.size := by
  rw [h.size_tiles]
  exact Config.cells_le valid_mazeConfig

/-- On the grid of the maze each character of the level has its own tile. -/
theorem index_mazeBlock {i : Nat} (hi : i < Level.text.length) :
    (Canvas.blockAt mazeConfig ⟨0, 0, Level.columns, Level.rows⟩).index i = some i := by
  have hclip : (Rect.mk 0 0 mazeConfig.columns mazeConfig.rows).clip
      ⟨0, 0, Level.columns, Level.rows⟩ = ⟨0, 0, mazeConfig.columns, mazeConfig.rows⟩ := by decide
  rw [Level.length_text] at hi
  have hmem : (⟨(i % 19 : Nat), (i / 19 : Nat)⟩ : Point) ∈
      (Canvas.blockAt mazeConfig ⟨0, 0, Level.columns, Level.rows⟩).clipped := by
    rw [Canvas.blockAt, hclip, Canvas.mem_tiles_iff valid_mazeConfig]
    simp only [mazeConfig, Level.columns, Level.rows] at hi ⊢
    omega
  have hplace : (Canvas.blockAt mazeConfig ⟨0, 0, Level.columns, Level.rows⟩).place i =
      some ⟨(i % 19 : Nat), (i / 19 : Nat)⟩ := by
    have hfits : Bounded.FitsSigned (i % 19 : Nat) ∧ Bounded.FitsSigned (i / 19 : Nat) := by
      simp only [Bounded.FitsSigned, Bounded.minSigned, Bounded.maxSigned, Level.columns,
        Level.rows] at hi ⊢
      omega
    have hcolumns : (Canvas.blockAt mazeConfig
        ⟨0, 0, Level.columns, Level.rows⟩).target.width.toNat = 19 := rfl
    simp only [Canvas.Block.place, hcolumns]
    simp only [Canvas.blockAt, Int.zero_add] at hmem ⊢
    rw [if_pos ⟨hfits.1, hfits.2, hmem⟩]
  rw [Canvas.Block.index, hplace]
  simp only [Canvas.blockAt, Option.map_some, Option.some.injEq, mazeConfig, Level.columns,
    Int.toNat_natCast]
  omega

theorem gridTiles_filled {canvas : Canvas} (h : canvas.sheet.Closed)
    (hsize : mazeConfig.cells ≤ canvas.tiles.size) :
    (filled canvas mazeConfig).gridTiles mazeConfig =
      Level.text.map canvas.sheet.spriteFor := by
  have htiles : canvas.tiles.toList = [] ++ canvas.gridTiles mazeConfig ++
      canvas.tiles.toList.drop mazeConfig.cells := (List.take_append_drop _ _).symm
  have hlength : (canvas.gridTiles mazeConfig).length = Level.text.length := by
    rw [Canvas.length_gridTiles hsize, cells_mazeConfig]
  have hcopied := Canvas.tiles_copyAll h htiles hlength fun i hi =>
    index_mazeBlock (by simpa using hi)
  rw [Canvas.gridTiles, filled, cells_mazeConfig]
  refine (congrArg (List.take Level.text.length) hcopied).trans ?_
  rw [List.nil_append, List.take_left' (List.length_map _)]

theorem at?_eq_some_iff {p : Point} {character : Char} :
    Level.at? p = some character ↔
      ((0 ≤ p.x ∧ p.x < Level.columns) ∧ 0 ≤ p.y ∧ p.y < Level.rows) ∧
        Level.text[mazeConfig.index p.x p.y]? = some character := by
  unfold Level.at?
  split
  · rename_i hout
    simp only [reduceCtorEq, false_iff, not_and]
    intro hmem
    omega
  · rename_i hin
    have hmem : (0 ≤ p.x ∧ p.x < Level.columns) ∧ 0 ≤ p.y ∧ p.y < Level.rows := by omega
    have hplace : (p.y * Level.columns + p.x).toNat = mazeConfig.index p.x p.y := by
      rw [index_mazeConfig]
      simp only [Level.columns]
      omega
    rw [hplace]
    exact ⟨fun h => ⟨hmem, h⟩, fun h => h.2⟩

/-- Different tiles of the maze have different places in the storage. -/
theorem index_mazeConfig_ne {p q : Point} (hp : 0 ≤ p.x ∧ p.x < Level.columns)
    (hp' : 0 ≤ p.y) (hq : 0 ≤ q.x ∧ q.x < Level.columns) (hq' : 0 ≤ q.y) (h : p ≠ q) :
    mazeConfig.index p.x p.y ≠ mazeConfig.index q.x q.y := by
  intro hindex
  refine h ?_
  obtain ⟨px, py⟩ := p
  obtain ⟨qx, qy⟩ := q
  simp only [index_mazeConfig, Level.columns] at *
  simp only [Point.mk.injEq]
  omega

end World

end Mosaic
