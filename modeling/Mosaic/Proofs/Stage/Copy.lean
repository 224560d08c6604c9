import Mosaic.Proofs.Stage.Invariant
import Mosaic.Proofs.Stage.Writes

/-!
# Copying a text

A text is copied to a block of tiles that may lie anywhere, one character to a tile. A character
whose tile lies outside the grid does nothing, whatever it stands for. The others fill their tiles
one after the other, up to the first that stands for a sprite the sheet does not have: there the
copy stops (`Canvas.Offends`), with just the tiles before it filled (`Canvas.Copied`). All this is
told in whole numbers without bounds, although the block is cut off at the grid in numbers of 32
bits.
-/

namespace Mosaic

namespace Canvas

variable {c : Config} {target : Rect} {text : List Char} {canvas : Canvas} {a : Active} {n : Nat}
  {id : SpriteId}

/-- Character number `i` goes to a tile of the grid and stands for a sprite that the sheet does not
have. -/
def Offends (sheet : Sheet) (c : Config) (target : Rect) (text : List Char) (i : Nat)
    (id : SpriteId) : Prop :=
  (∃ x y, (x, y) ∈ c.grid ∧ target.Spans x y ∧ i = target.number x y) ∧
    ∃ character, text[i]? = some character ∧ sheet.spriteFor character = some id ∧
      ¬ sheet.Contains id

/-- The tiles of the grid to which one of the first `n` characters goes show what it stands for on
the sheet, and the others are as before. -/
structure Copied (sheet : Sheet) (before after : Canvas) (c : Config) (target : Rect)
    (text : List Char) (n : Nat) : Prop where
  written : ∀ x y, (x, y) ∈ c.grid → target.Spans x y → target.number x y < n →
    ∃ character, text[target.number x y]? = some character ∧
      after.tile x y = .ok (sheet.spriteFor character)
  kept : ∀ x y, (x, y) ∈ c.grid → ¬ (target.Spans x y ∧ target.number x y < n) →
    after.tile x y = before.tile x y

/-! ### The first character that is refused -/

/-- The characters with a place in the storage are those that go to a tile of the grid. -/
theorem isSome_index_blockAt_iff (h : c.Valid) {i : Nat} :
    ((blockAt c target).index i).isSome ↔
      ∃ x y, (x, y) ∈ c.grid ∧ target.Spans x y ∧ i = target.number x y := by
  constructor
  · intro hi
    obtain ⟨j, hj⟩ := Option.isSome_iff_exists.1 hi
    obtain ⟨⟨x, y⟩, hp, -⟩ := Option.map_eq_some_iff.1 hj
    obtain ⟨⟨hgrid, hspans⟩, hnumber⟩ := (place_blockAt_eq_iff h).1 hp
    exact ⟨x, y, hgrid, hspans, (Rect.number_eq_iff hspans).2 hnumber⟩
  · rintro ⟨x, y, hgrid, hspans, hnumber⟩
    rw [(index_blockAt_eq_iff h hgrid).2 ⟨hspans, hnumber⟩]
    rfl

/-- Before the first character that offends, every character is accepted. -/
theorem accepts_take {sheet : Sheet} (h : c.Valid)
    (hbefore : ∀ i < n, ∀ id, ¬ Offends sheet c target text i id) :
    (blockAt c target).Accepts sheet (text.take n).zipIdx := by
  rintro ⟨character, i⟩ hentry hi
  rw [List.mem_zipIdx_iff_getElem?, List.getElem?_take] at hentry
  obtain ⟨hlt, hcharacter⟩ : i < n ∧ text[i]? = some character := by
    split at hentry
    · exact ⟨‹_›, hentry⟩
    · cases hentry
  rw [Sheet.checkOption_eq_ok_iff]
  intro id hid
  by_contra hcontains
  exact hbefore i hlt id
    ⟨(isSome_index_blockAt_iff h).1 hi, character, hcharacter, hid, hcontains⟩

/-- A character that offends is refused where it stands. -/
theorem run_copyCharacter_of_offends (h : c.Valid) {character : Char} (canvas : Canvas)
    (hoffends : Offends canvas.sheet c target text n id) (hcharacter : text[n]? = some character) :
    (copyCharacter (blockAt c target) character n).run canvas =
      ⟨.error (.offSheet id.index canvas.sheet.count), canvas, []⟩ := by
  obtain ⟨hplace, character', hcharacter', hsprite, hcontains⟩ := hoffends
  rw [hcharacter] at hcharacter'
  cases hcharacter'
  obtain ⟨j, hj⟩ := Option.isSome_iff_exists.1 ((isSome_index_blockAt_iff h).2 hplace)
  obtain ⟨p, hp, -⟩ := Option.map_eq_some_iff.1 hj
  have hcheck : canvas.sheet.checkOption (canvas.sheet.spriteFor character) =
      .error (.offSheet id.index canvas.sheet.count) := by
    rw [hsprite]
    exact if_neg hcontains
  simp only [copyCharacter, hp, Action.run_query_bind, hcheck]

/-- The copy stops at the first character that offends, with those before it copied. -/
theorem run_copyAll_of_offends (h : c.Valid) (hoffends : Offends canvas.sheet c target text n id)
    (hbefore : ∀ i < n, ∀ id, ¬ Offends canvas.sheet c target text i id) :
    ((copyAll (blockAt c target) text.zipIdx).run canvas).result =
        .error (.offSheet id.index canvas.sheet.count) ∧
      ((copyAll (blockAt c target) text.zipIdx).run canvas).state =
        ((copyAll (blockAt c target) (text.take n).zipIdx).run canvas).state := by
  obtain ⟨character, hcharacter, -⟩ := hoffends.2
  obtain ⟨hn, hget⟩ := List.getElem?_eq_some_iff.1 hcharacter
  have hsplit : text.zipIdx =
      (text.take n).zipIdx ++ (character, n) :: (text.drop (n + 1)).zipIdx (n + 1) := by
    conv_lhs => rw [← List.take_append_drop n text, List.drop_eq_getElem_cons hn, hget]
    rw [List.zipIdx_append, List.zipIdx_cons, List.length_take, Nat.min_eq_left hn.le,
      Nat.zero_add]
  obtain ⟨tiles, -, hstate⟩ :=
    follows_keepsButTiles_copyAll (blockAt c target) (text.take n).zipIdx canvas
  have hbegun : (copyAll (blockAt c target) (text.take n).zipIdx).run canvas =
      ⟨.ok (), { canvas with tiles := tiles },
        ((copyAll (blockAt c target) (text.take n).zipIdx).run canvas).notes⟩ := by
    rw [← copyAll_result_of_accepts (accepts_take h hbefore), ← hstate]
  have hstop := Action.run_bind_of_error
    (run_copyCharacter_of_offends h { canvas with tiles := tiles } hoffends hcharacter)
    fun _ => copyAll (blockAt c target) ((text.drop (n + 1)).zipIdx (n + 1))
  have hcut : copyAll (blockAt c target) text.zipIdx =
      copyAll (blockAt c target) (text.take n).zipIdx >>= fun _ =>
        copyCharacter (blockAt c target) character n >>= fun _ =>
          copyAll (blockAt c target) ((text.drop (n + 1)).zipIdx (n + 1)) := by
    rw [hsplit, copyAll, Action.each_append, Action.each_cons]
    rfl
  rw [hcut, Action.run_bind_of_ok hbegun, hstop, hbegun]
  exact ⟨rfl, rfl⟩

/-! ### What a copy leaves -/

theorem copied_copyAll (h : canvas.active = some a) (hsound : canvas.Sound)
    (hlength : text.length = target.width.toNat * target.height.toNat)
    (hbefore : ∀ i < n, ∀ id, ¬ Offends canvas.sheet a.config target text i id) :
    Copied canvas.sheet canvas
      ((copyAll (blockAt a.config target) (text.take n).zipIdx).run canvas).state
      a.config target text n := by
  have hvalid := (hsound.fits a h).valid
  have hstored := fun {x y : Int} => stored_copyAll (x := x) (y := y) hvalid
    (hsound.cells_le_size h) (accepts_take hvalid hbefore)
  obtain ⟨tiles, -, hstate⟩ :=
    follows_keepsButTiles_copyAll (blockAt a.config target) (text.take n).zipIdx canvas
  rw [hstate] at hstored ⊢
  have hactive : ({ canvas with tiles := tiles } : Canvas).active = some a := h
  have htile : ∀ {x y : Int}, (x, y) ∈ a.config.grid →
      ({ canvas with tiles := tiles } : Canvas).tile x y =
        .ok (((target.letter (text.take n) x y).map canvas.sheet.spriteFor).getD
          (canvas.stored (a.config.index x y))) := by
    intro x y hgrid
    obtain ⟨⟨hx, hx'⟩, hy, hy'⟩ := Config.mem_grid.1 hgrid
    rw [tile_of_mem hactive hx hx' hy hy', hstored hgrid]
  constructor
  · intro x y hgrid hspans hlt
    have hnumber : target.number x y < text.length := hlength ▸ Rect.number_lt hspans
    refine ⟨_, List.getElem?_eq_getElem hnumber, ?_⟩
    rw [htile hgrid, Rect.letter, if_pos hspans, List.getElem?_take_of_lt hlt,
      List.getElem?_eq_getElem hnumber]
    rfl
  · intro x y hgrid hnot
    have hletter : target.letter (text.take n) x y = none := by
      rw [Rect.letter]
      split
      · rename_i hspans
        rw [List.getElem?_take, if_neg fun hlt => hnot ⟨hspans, hlt⟩]
      · rfl
    obtain ⟨⟨hx, hx'⟩, hy, hy'⟩ := Config.mem_grid.1 hgrid
    rw [htile hgrid, hletter, tile_of_mem h hx hx' hy hy']
    rfl

/-! ### Characters outside the grid -/

/-- Two characters that stand for the same sprite, or have no place in the storage, are copied
alike. -/
theorem run_copyCharacter_congr {character character' : Char} (block : Block) (i : Nat)
    (canvas : Canvas) (h : (block.index i).isSome →
      canvas.sheet.spriteFor character' = canvas.sheet.spriteFor character) :
    (copyCharacter block character' i).run canvas =
      (copyCharacter block character i).run canvas := by
  cases hp : block.place i with
  | none => simp only [copyCharacter, hp]
  | some p =>
      have hsprite := h (by rw [Block.index, hp]; rfl)
      simp only [copyCharacter, hp, Action.run_query_bind, hsprite]

/-- What the characters without a place stand for does not matter to a copy. -/
theorem run_copyAll_congr {text' : List Char} {block : Block} {k : Nat} (canvas : Canvas)
    (hlength : text'.length = text.length)
    (h : ∀ i, (block.index (k + i)).isSome →
      (text'[i]?).map canvas.sheet.spriteFor = (text[i]?).map canvas.sheet.spriteFor) :
    (copyAll block (text'.zipIdx k)).run canvas = (copyAll block (text.zipIdx k)).run canvas := by
  induction text generalizing text' canvas k with
  | nil => rw [List.length_eq_zero_iff.1 hlength]
  | cons character text ih =>
      obtain ⟨character', text', rfl⟩ := List.exists_cons_of_length_eq_add_one hlength
      have hfirst := run_copyCharacter_congr block k canvas fun hi => by simpa using h 0 hi
      obtain ⟨tiles, -, hstate⟩ :=
        follows_keepsButTiles_copyCharacter block character k canvas
      rw [List.zipIdx_cons, List.zipIdx_cons, copyAll, copyAll, Action.each_cons, Action.each_cons,
        Action.run_bind, Action.run_bind, hfirst]
      generalize (copyCharacter block character k).run canvas = outcome at hstate ⊢
      rcases outcome with ⟨_ | u, s, notes⟩
      · rfl
      · cases hstate
        have hrest := ih (k := k + 1) { canvas with tiles := tiles } (by simpa using hlength)
          fun i hi => by simpa using h (i + 1) (by rwa [Nat.add_comm i 1, ← Nat.add_assoc])
        rw [copyAll, copyAll] at hrest
        dsimp only
        rw [hrest]

end Canvas

namespace Stage

variable {δ : Type} [Device δ]

/-- A text of the right length is copied on the canvas alone. -/
theorem run_copyText_command {stage : Stage δ} {a : Active} (h : stage.canvas.active = some a)
    {target : Rect} {text : List Char} (hsize : 0 ≤ target.width ∧ 0 ≤ target.height)
    (hlength : text.length = target.width.toNat * target.height.toNat) :
    let copied := (Canvas.copyAll (Canvas.blockAt a.config target) text.zipIdx).run stage.canvas
    ((Command.copyText target text).run.run stage).result =
        (fun _ => Reply.done) <$> copied.result ∧
      ((Command.copyText target text).run.run stage).state =
        { stage with canvas := copied.state } := by
  intro copied
  obtain ⟨notes, hrun⟩ := Canvas.run_copyText_of_length h hsize hlength
  have hcommand := run_edit (Canvas.copyText target text) stage
  rw [hrun] at hcommand
  rw [Command.run, hcommand]
  exact ⟨rfl, rfl⟩

/-- Take any state of a run in which the canvas is set up, over any sheet and on any device, and a
text with one character for each place of a block that may lie anywhere. If no character that goes
to a tile of the grid stands for a sprite that the sheet does not have, the text is copied, and each
tile of the grid in the block shows what its own character stands for. Otherwise the copy stops at
the first such character, and just the tiles before it are filled. Nothing but tiles is changed, and
the characters that go to no tile of the grid do not matter. -/
theorem copyText_fills_block (sheet : Sheet) (device : δ) (events : List (Event δ))
    (stage : Stage δ) (hstage : (fresh sheet device).after events = stage) (a : Active)
    (h : stage.canvas.active = some a) (target : Rect) (text : List Char)
    (hsize : 0 ≤ target.width ∧ 0 ≤ target.height)
    (hlength : text.length = target.width.toNat * target.height.toNat) :
    let run := (Command.copyText target text).run.run stage
    ((∀ i id, ¬ Canvas.Offends sheet a.config target text i id) →
        run.result = .ok .done ∧
          Canvas.Copied sheet stage.canvas run.state.canvas a.config target text text.length) ∧
      ((∃ i id, Canvas.Offends sheet a.config target text i id) →
        ∃ n id, Canvas.Offends sheet a.config target text n id ∧
          (∀ i id', Canvas.Offends sheet a.config target text i id' → n ≤ i) ∧
          run.result = .error (.offSheet id.index sheet.count) ∧
          Canvas.Copied sheet stage.canvas run.state.canvas a.config target text n) ∧
      (∃ tiles, tiles.size = stage.canvas.tiles.size ∧
        run.state = { stage with canvas := { stage.canvas with tiles := tiles } }) ∧
      ∀ text' : List Char, text'.length = text.length →
        (∀ x y, (x, y) ∈ a.config.grid → target.Spans x y →
          (text'[target.number x y]?).map sheet.spriteFor =
            (text[target.number x y]?).map sheet.spriteFor) →
        ((Command.copyText target text').run.run stage).result = run.result ∧
          ((Command.copyText target text').run.run stage).state = run.state := by
  intro run
  have hsound : stage.canvas.Sound := hstage ▸ sound_after sheet device events
  have hsheet : stage.canvas.sheet = sheet := hstage ▸ sheet_after (fresh sheet device) events
  have hvalid := (hsound.fits a h).valid
  obtain ⟨hresult, hstate⟩ := run_copyText_command h hsize hlength
  have hcanvas : run.state.canvas =
      ((Canvas.copyAll (Canvas.blockAt a.config target) text.zipIdx).run stage.canvas).state :=
    congrArg Stage.canvas hstate
  subst hsheet
  refine ⟨?done, ?stopped, ?tiles, ?outside⟩
  case done =>
    intro hnone
    have hcopied := Canvas.copied_copyAll (n := text.length) h hsound hlength fun i _ => hnone i
    have hend := Canvas.copyAll_result_of_accepts
      (Canvas.accepts_take (n := text.length) hvalid fun i _ => hnone i)
    rw [List.take_length] at hcopied hend
    rw [hend] at hresult
    exact ⟨hresult, hcanvas ▸ hcopied⟩
  case stopped =>
    intro hsome
    classical
    -- the first character that offends
    obtain ⟨id, hoffends⟩ := Nat.find_spec hsome
    have hbefore : ∀ i < Nat.find hsome, ∀ id,
        ¬ Canvas.Offends stage.canvas.sheet a.config target text i id :=
      fun i hi id hi' => Nat.find_min hsome hi ⟨id, hi'⟩
    have hcopied := Canvas.copied_copyAll h hsound hlength hbefore
    obtain ⟨hend, hcut⟩ := Canvas.run_copyAll_of_offends hvalid hoffends hbefore
    rw [hend] at hresult
    rw [← hcut, ← hcanvas] at hcopied
    exact ⟨_, id, hoffends, fun i id' hi => Nat.find_min' hsome ⟨id', hi⟩, hresult, hcopied⟩
  case tiles =>
    obtain ⟨tiles, htiles, hkept⟩ := Canvas.follows_keepsButTiles_copyAll
      (Canvas.blockAt a.config target) text.zipIdx stage.canvas
    rw [hkept] at hstate
    exact ⟨tiles, htiles, hstate⟩
  case outside =>
    intro text' hlength' hletters
    obtain ⟨hresult', hstate'⟩ := run_copyText_command h hsize (hlength'.trans hlength)
    have hletter : ∀ i, ((Canvas.blockAt a.config target).index (0 + i)).isSome →
        (text'[i]?).map stage.canvas.sheet.spriteFor =
          (text[i]?).map stage.canvas.sheet.spriteFor := by
      intro i hi
      rw [Nat.zero_add, Canvas.isSome_index_blockAt_iff hvalid] at hi
      obtain ⟨x, y, hgrid, hspans, rfl⟩ := hi
      exact hletters x y hgrid hspans
    have hcongr := Canvas.run_copyAll_congr stage.canvas hlength' hletter
    rw [hcongr] at hresult' hstate'
    exact ⟨hresult'.trans hresult.symm, hstate'.trans hstate.symm⟩

theorem eq_of_off_straySheet {character : Char} {id : SpriteId}
    (h : straySheet.spriteFor character = some id) (hcontains : ¬ straySheet.Contains id) :
    character = 'x' ∧ id = ⟨7⟩ := by
  by_cases hname : character = 'x'
  · subst hname
    exact ⟨rfl, (Option.some.inj h).symm⟩
  · have hid : ⟨0⟩ = id := by simpa [straySheet, hname] using h
    exact absurd (hid ▸ (by decide : straySheet.Contains ⟨0⟩)) hcontains

/-- On a sheet with one sprite and a name that leads off it: a block beyond the greatest coordinate,
whose text is that name throughout, and a block that begins left of the grid, where the name stops
the copy at character number 6, but not at those numbers 0 and 4 that lie outside. -/
theorem copyText_fills_block_straySheet :
    let stage := (fresh straySheet Recorder.fresh).after [.command (.setup ⟨3, 2, 8, 8, 1⟩)]
    let far := (Command.copyText ⟨2147483647, -1, 2, 3⟩
      ['x', 'x', 'x', 'x', 'x', 'x']).run.run stage
    let half := (Command.copyText ⟨-1, 0, 4, 2⟩
      ['x', '.', '.', '.', 'x', '.', 'x', '.']).run.run stage
    (far.result = .ok .done ∧ far.state.canvas.tile 2 1 = stage.canvas.tile 2 1) ∧
      half.result = .error (.offSheet 7 1) ∧
      half.state.canvas.tile 0 1 = .ok (some ⟨0⟩) ∧
      half.state.canvas.tile 1 1 = stage.canvas.tile 1 1 := by
  intro stage far half
  have hactive : stage.canvas.active = some ⟨⟨3, 2, 8, 8, 1⟩, ⟨⟨1⟩, ⟨2⟩, ⟨3⟩, ⟨4⟩⟩⟩ := by
    decide +kernel
  constructor
  · obtain ⟨hdone, -⟩ := copyText_fills_block straySheet Recorder.fresh _ stage rfl _ hactive
      ⟨2147483647, -1, 2, 3⟩ ['x', 'x', 'x', 'x', 'x', 'x'] (by decide) (by decide)
    have hnone : ∀ i id, ¬ Canvas.Offends straySheet ⟨3, 2, 8, 8, 1⟩ ⟨2147483647, -1, 2, 3⟩
        ['x', 'x', 'x', 'x', 'x', 'x'] i id := by
      rintro i id ⟨⟨x, y, hgrid, ⟨⟨hx, -⟩, -⟩, -⟩, -⟩
      have hcolumn := (Config.mem_grid.1 hgrid).1.2
      dsimp only at hx hcolumn
      omega
    obtain ⟨hresult, hcopied⟩ := hdone hnone
    exact ⟨hresult, hcopied.kept 2 1 (by decide) (by decide)⟩
  · obtain ⟨-, hstopped, -⟩ := copyText_fills_block straySheet Recorder.fresh _ stage rfl _ hactive
      ⟨-1, 0, 4, 2⟩ ['x', '.', '.', '.', 'x', '.', 'x', '.'] (by decide) (by decide)
    have hsixth : Canvas.Offends straySheet ⟨3, 2, 8, 8, 1⟩ ⟨-1, 0, 4, 2⟩
        ['x', '.', '.', '.', 'x', '.', 'x', '.'] 6 ⟨7⟩ :=
      ⟨⟨1, 1, by decide, by decide, by decide⟩, 'x', rfl, rfl, by decide⟩
    obtain ⟨n, id, hoffends, hfirst, hresult, hcopied⟩ := hstopped ⟨6, ⟨7⟩, hsixth⟩
    have hn : n ≤ 6 := hfirst 6 ⟨7⟩ hsixth
    obtain ⟨⟨x, y, hgrid, hspans, hnumber⟩, character, hcharacter, hsprite, hcontains⟩ := hoffends
    obtain ⟨rfl, rfl⟩ := eq_of_off_straySheet hsprite hcontains
    -- up to number 6 the name stands at three places, of which two are left of the grid
    have hplaces : ∀ n ≤ 6, ['x', '.', '.', '.', 'x', '.', 'x', '.'][n]? = some 'x' →
        n = 0 ∨ n = 4 ∨ n = 6 := by decide
    have hcases := hplaces n hn hcharacter
    have hcolumns := (Config.mem_grid.1 hgrid).1
    have hrows := hspans.2
    change n = (y - 0).toNat * 4 + (x - -1).toNat at hnumber
    dsimp only at hcolumns hrows
    have hsix : n = 6 := by omega
    subst hsix
    have hkept := hcopied.kept 1 1 (by decide) (by decide)
    obtain ⟨letter, hletter, htile⟩ := hcopied.written 0 1 (by decide) (by decide) (by decide)
    have hdot : letter = '.' := Option.some.inj (hletter.symm.trans rfl)
    subst hdot
    have hground : straySheet.spriteFor '.' = some ⟨0⟩ := by decide
    rw [hground] at htile
    dsimp only [half]
    exact ⟨hresult, htile, hkept⟩

end Stage

end Mosaic
