import Mosaic.Proofs.Sheet.Cells

/-!
# Texts that name consecutive sprites

The characters of a text name the sprites from a first one on. The sheet after all of them is had by
entering them in the character map one after the other (`entered`), so a character that occurs
several times stands for the sprite of its last place. A place is cut to 16 bits, which can only be
seen on a sheet with a sprite for each number of 16 bits: every other sheet refuses a longer text
before (`forall_contains_numbered_iff`).
-/

namespace Mosaic

namespace GridSheet

/-- The sprite that a place of a text names, of which the low 16 bits count. -/
def numbered (first : SpriteId) (place : Nat) : SpriteId := ⟨first.index + place % maxSprites⟩

/-- A character map after the characters of a text, of which the head has the place `place`. -/
def entered (first : SpriteId) (names : Table Char SpriteId) :
    (place : Nat) → List Char → Table Char SpriteId
  | _, [] => names
  | place, name :: rest =>
    entered first (names.insert name (numbered first place)) (place + 1) rest

/-! ### What is entered -/

section Entered

variable (first : SpriteId) (names : Table Char SpriteId) (place : Nat)

theorem entered_append (before after : List Char) :
    entered first names place (before ++ after) =
      entered first (entered first names place before) (place + before.length) after := by
  induction before generalizing names place with
  | nil => rfl
  | cons name before ih =>
      rw [List.cons_append, entered, ih, entered, List.length_cons, Nat.add_assoc,
        Nat.add_comm 1 before.length]

/-- A character that does not occur in the text stands for what it stood for before. -/
theorem get?_entered_of_not_mem {name : Char} {text : List Char} (h : name ∉ text) :
    (entered first names place text).get? name = names.get? name := by
  induction text generalizing names place with
  | nil => rfl
  | cons other text ih =>
      rw [List.mem_cons, not_or] at h
      rw [entered, ih _ _ h.2, Table.get?_insert_of_ne h.1]

/-- A character of the text stands for the sprite of its last place. -/
theorem get?_entered_of_last {name : Char} {text : List Char} {i : Nat}
    (h : text[i]? = some name) (hlast : name ∉ text.drop (i + 1)) :
    (entered first names place text).get? name = some (numbered first (place + i)) := by
  obtain ⟨hi, hname⟩ := List.getElem?_eq_some_iff.1 h
  have hsplit : text = text.take i ++ name :: text.drop (i + 1) := by
    rw [← hname, ← List.drop_eq_getElem_cons hi, List.take_append_drop]
  rw [hsplit, entered_append, entered, get?_entered_of_not_mem _ _ _ hlast,
    Table.get?_insert_self, List.length_take_of_le (Nat.le_of_lt hi)]

end Entered

/-! ### When a text is accepted -/

section Accepted

variable {g : GridSheet} {first : SpriteId} {place : Nat}

theorem mapFrom_cons_of_contains (hcount : g.count ≤ maxSprites) (name : Char) (rest : List Char)
    (h : g.toSheet.Contains (numbered first place)) :
    g.mapFrom first place (name :: rest) =
      ({ g with names := g.names.insert name (numbered first place) } : GridSheet).mapFrom first
        (place + 1) rest := by
  have hadd : Bounded.add .bits16 first.index (place % 65536) =
      .ok (numbered first place).index := Bounded.unsigned_of_lt (Nat.lt_of_lt_of_le h hcount)
  have hmap : g.map name (numbered first place) = .ok _ := map_eq_ok_iff.2 ⟨h, rfl⟩
  simp only [mapFrom, hadd, bind, Except.bind]
  rw [hmap]

theorem mapFrom_cons_of_not_contains (name : Char) (rest : List Char)
    (h : ¬ g.toSheet.Contains (numbered first place)) :
    ∃ fault, g.mapFrom first place (name :: rest) = .error fault := by
  unfold mapFrom
  cases hadd : Bounded.add .bits16 first.index (place % 65536) with
  | error fault => exact ⟨fault, rfl⟩
  | ok id =>
      obtain ⟨-, rfl⟩ := Bounded.unsigned_eq_ok_iff.1 hadd
      cases hmap : g.map name ⟨first.index + place % 65536⟩ with
      | error fault => exact ⟨fault, by simp only [bind, Except.bind, hmap]⟩
      | ok named => exact absurd (map_eq_ok_iff.1 hmap).1 h

/-- A text is accepted when all its places name sprites of the sheet. -/
theorem mapFrom_eq_ok_iff (hcount : g.count ≤ maxSprites) {text : List Char} {named : GridSheet} :
    g.mapFrom first place text = .ok named ↔
      (∀ i < text.length, g.toSheet.Contains (numbered first (place + i))) ∧
        named = { g with names := entered first g.names place text } := by
  induction text generalizing g place with
  | nil => simp [mapFrom, entered, eq_comm]
  | cons name rest ih =>
      rw [List.length_cons, Nat.forall_lt_succ_left]
      by_cases h : g.toSheet.Contains (numbered first place)
      · let next : GridSheet := { g with names := g.names.insert name (numbered first place) }
        have hnext : next.count ≤ maxSprites := hcount
        have hshift : ∀ i, place + 1 + i = place + (i + 1) := by omega
        rw [mapFrom_cons_of_contains hcount name rest h, ih hnext, entered]
        simp only [hshift]
        exact and_congr_left' (and_iff_right h).symm
      · obtain ⟨fault, hfault⟩ := mapFrom_cons_of_not_contains name rest h
        rw [hfault]
        simp only [reduceCtorEq, false_iff]
        exact fun hall => h hall.1.1

theorem mapText_eq_ok_iff (hcount : g.count ≤ maxSprites) {text : List Char} {named : GridSheet} :
    g.mapText text first = .ok named ↔
      (∀ i < text.length, g.toSheet.Contains (numbered first i)) ∧
        named = { g with names := entered first g.names 0 text } := by
  rw [mapText, mapFrom_eq_ok_iff hcount]
  simp only [Nat.zero_add]

/-- On the sheet that a text leaves, a character of it stands for the sprite of its last place. -/
theorem spriteFor_entered {name : Char} {text : List Char} {i : Nat} (h : text[i]? = some name)
    (hlast : name ∉ text.drop (i + 1)) :
    ({ g with names := entered first g.names 0 text } : GridSheet).spriteFor name =
      some (numbered first i) := by
  rw [spriteFor, get?_entered_of_last first g.names 0 h hlast, Nat.zero_add]

/-- The places of a text name sprites of the sheet when the last one does without being cut, and on
a sheet with a sprite for each number, from the first one on, always. -/
theorem forall_contains_numbered_iff (hcount : g.count ≤ maxSprites) {n : Nat} (hn : 0 < n) :
    (∀ i < n, g.toSheet.Contains (numbered first i)) ↔
      g.toSheet.Contains ⟨first.index + n - 1⟩ ∨ first.index = 0 ∧ g.count = maxSprites := by
  change (∀ i < n, first.index + i % maxSprites < g.count) ↔
    first.index + n - 1 < g.count ∨ first.index = 0 ∧ g.count = maxSprites
  have hmax : maxSprites = 65536 := rfl
  constructor
  · intro h
    by_cases hlong : n ≤ maxSprites
    · left
      have hlast := h (n - 1) (by omega)
      rw [Nat.mod_eq_of_lt (by omega)] at hlast
      omega
    · right
      have hgreatest := h (maxSprites - 1) (by omega)
      rw [Nat.mod_eq_of_lt (by omega)] at hgreatest
      omega
  · rintro (hlast | ⟨hfirst, hfull⟩) i hi
    · have hcut := Nat.mod_le i maxSprites
      omega
    · have hcut := Nat.mod_lt i (show 0 < maxSprites by decide)
      omega

end Accepted

/-- The characters of a text name consecutive sprites, each the one of its last place, and all other
characters keep theirs. The text is refused when its last place names no sprite of the sheet, with
one exception: on a sheet with a sprite for each number of 16 bits, a text that names the sprites
from the first one on starts again at the first one whenever it has named the last. -/
theorem mapText_names_in_order {g : GridSheet} (h : g.Built) {text : List Char} (htext : text ≠ [])
    (first : SpriteId) :
    ((∃ named, g.mapText text first = .ok named) ↔
      g.toSheet.Contains ⟨first.index + text.length - 1⟩ ∨
        first.index = 0 ∧ g.count = maxSprites) ∧
      ∀ named, g.mapText text first = .ok named →
        named = { g with names := named.names } ∧
          (∀ name, name ∉ text → named.spriteFor name = g.spriteFor name) ∧
          (∀ i name, text[i]? = some name → name ∉ text.drop (i + 1) →
            named.spriteFor name = some ⟨first.index + i % maxSprites⟩) ∧
          (g.toSheet.Contains ⟨first.index + text.length - 1⟩ →
            ∀ i name, text[i]? = some name → name ∉ text.drop (i + 1) →
              named.spriteFor name = some ⟨first.index + i⟩) := by
  have hcount := h.count_le
  constructor
  · simp only [mapText_eq_ok_iff hcount, exists_and_left, exists_eq, and_true]
    exact forall_contains_numbered_iff hcount (List.length_pos_iff.2 htext)
  · intro named hnamed
    obtain ⟨-, rfl⟩ := (mapText_eq_ok_iff hcount).1 hnamed
    refine ⟨rfl, fun name hname => get?_entered_of_not_mem first g.names 0 hname,
      fun i name => spriteFor_entered, ?_⟩
    intro hon i name hi hlast
    have hplace : first.index + text.length - 1 < g.count := hon
    have hi' := (List.getElem?_eq_some_iff.1 hi).1
    rw [spriteFor_entered hi hlast, numbered, Nat.mod_eq_of_lt (by omega)]

/-- A sheet of four sprites. -/
def strip : GridSheet := ⟨⟨4, 1, Array.replicate 16 0⟩, 1, 1, 4, 1, .empty⟩

theorem built_strip : strip.Built :=
  .cut (show cut strip.image 1 1 = _ from by rfl)

theorem mapText_names_in_order_strip :
    (∃ named, strip.mapText ['#', '.', '#'] ⟨1⟩ = .ok named ∧
      named.spriteFor '#' = some ⟨3⟩ ∧ named.spriteFor '.' = some ⟨2⟩ ∧
        named.spriteFor 'o' = none) ∧
      ¬ ∃ named, strip.mapText ['#', '.', '#'] ⟨2⟩ = .ok named := by
  have htext : ['#', '.', '#'] ≠ [] := by decide
  obtain ⟨haccepts, hnames⟩ := mapText_names_in_order built_strip htext ⟨1⟩
  obtain ⟨named, hnamed⟩ := haccepts.2 (.inl (by decide))
  obtain ⟨-, hothers, -, hplaces⟩ := hnames named hnamed
  refine ⟨⟨named, hnamed, ?_, ?_, ?_⟩, ?_⟩
  · exact hplaces (by decide) 2 '#' rfl (by decide)
  · exact hplaces (by decide) 1 '.' rfl (by decide)
  · exact hothers 'o' (by decide)
  · rw [(mapText_names_in_order built_strip htext ⟨2⟩).1]
    decide

/-- A sheet with a sprite for each number of 16 bits. -/
def fullSheet : GridSheet := ⟨⟨256, 256, Array.replicate 262144 255⟩, 1, 1, 256, 256, .empty⟩

theorem built_fullSheet : fullSheet.Built :=
  .cut (show cut fullSheet.image 1 1 = _ from cut_eq_ok_iff.2 ⟨by decide, by decide, rfl⟩)

/-- A text with one character more than there are numbers of 16 bits. -/
def overlongText : List Char := List.replicate maxSprites 'a' ++ ['b']

theorem length_overlongText : overlongText.length = maxSprites + 1 := by
  rw [overlongText, List.length_append, List.length_replicate, List.length_singleton]

theorem getElem?_overlongText_eq_iff {i : Nat} : overlongText[i]? = some 'b' ↔ i = maxSprites := by
  rw [overlongText]
  constructor
  · intro h
    by_cases hi : i < maxSprites
    · rw [List.getElem?_append_left (by rwa [List.length_replicate]),
        List.getElem?_replicate_of_lt hi] at h
      cases h
    · have hlength := (List.getElem?_eq_some_iff.1 h).1
      rw [List.length_append, List.length_replicate, List.length_singleton] at hlength
      omega
  · rintro rfl
    rw [List.getElem?_append_right (Nat.le_of_eq List.length_replicate), List.length_replicate,
      Nat.sub_self]
    rfl

/-- The last place of a text that is longer than the sheet names no sprite, but the text is not
refused: its last character, which occurs nowhere else in it, stands for the first sprite. -/
theorem mapText_starts_again :
    fullSheet.Built ∧ ¬ fullSheet.toSheet.Contains ⟨0 + overlongText.length - 1⟩ ∧
      (∀ i, overlongText[i]? = some 'b' ↔ i = maxSprites) ∧
      ∃ named, fullSheet.mapText overlongText ⟨0⟩ = .ok named ∧ named.spriteFor 'b' = some ⟨0⟩ := by
  have hcount : fullSheet.count = maxSprites := rfl
  have hlength := length_overlongText
  have hall : ∀ i < overlongText.length, fullSheet.toSheet.Contains (numbered ⟨0⟩ i) :=
    (forall_contains_numbered_iff (Nat.le_of_eq hcount) (by omega)).2 (.inr ⟨rfl, hcount⟩)
  have hdrop : 'b' ∉ overlongText.drop (maxSprites + 1) := by
    rw [List.drop_eq_nil_of_le (Nat.le_of_eq hlength)]
    exact List.not_mem_nil
  refine ⟨built_fullSheet, ?_, fun i => getElem?_overlongText_eq_iff,
    _, (mapText_eq_ok_iff (Nat.le_of_eq hcount)).2 ⟨hall, rfl⟩, ?_⟩
  · rw [hlength]
    decide
  · rw [spriteFor_entered (getElem?_overlongText_eq_iff.2 rfl) hdrop]
    decide

end GridSheet

end Mosaic
