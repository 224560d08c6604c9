import Mosaic.Proofs.Stage.Invariant

/-!
# The layout of the vertices

`Canvas.layout` says which vertices a canvas shows in terms of its questions: for each row and each
column in it the tile there, then each slot, six vertices for each that shows a sprite. It does not
mention storage or arena. In every state of a run the vertices that are listed are those of the
layout, so they depend on the geometry, the tiles, the slots and the sheet alone.
-/

namespace Mosaic

namespace Canvas

/-! ### The layout -/

/-- The two triangles that show a part of the sheet in a rectangle of pixels. The right and bottom
edges are exact sums, and each coordinate is a part of the size of the canvas. -/
def triangles (c : Config) (bounds : Rect) (uv : UvRect) : List Vertex :=
  let left := Binary32.ratio bounds.x (c.columns * c.tileWidth)
  let top := Binary32.ratio bounds.y (c.rows * c.tileHeight)
  let right := Binary32.ratio (bounds.x + bounds.width) (c.columns * c.tileWidth)
  let bottom := Binary32.ratio (bounds.y + bounds.height) (c.rows * c.tileHeight)
  [⟨left, top, uv.u0, uv.v0⟩, ⟨right, top, uv.u1, uv.v0⟩, ⟨right, bottom, uv.u1, uv.v1⟩,
    ⟨left, top, uv.u0, uv.v0⟩, ⟨right, bottom, uv.u1, uv.v1⟩, ⟨left, bottom, uv.u0, uv.v1⟩]

/-- The vertices of a picture. -/
def outline (sheet : Sheet) (c : Config) (picture : Sprite) : Except Fault (List Vertex) := do
  let uv ← sheet.uv picture.id
  return triangles c picture.bounds uv

/-- The vertices of the tiles, row by row, and after them those of the slots. -/
def layout (canvas : Canvas) (c : Config) : Except Fault (List Vertex) := do
  let tiles ← (canvas.tilePictures c).mapM (outline canvas.sheet c)
  let sprites ← (canvas.slotPictures c).mapM (outline canvas.sheet c)
  return tiles.flatten ++ sprites.flatten

theorem layout_eq_mapM_pictures (canvas : Canvas) (c : Config) :
    canvas.layout c = List.flatten <$> (canvas.pictures c).mapM (outline canvas.sheet c) := by
  rw [pictures, List.mapM_append, layout]
  cases (canvas.tilePictures c).mapM (outline canvas.sheet c) with
  | error fault => rfl
  | ok tiles =>
      cases (canvas.slotPictures c).mapM (outline canvas.sheet c) with
      | error fault => rfl
      | ok sprites =>
          simp [bind, Except.bind, pure, Except.pure, Functor.map, Except.map]

/-- Two canvases with one sheet that answer alike have the same layout. -/
theorem layout_congr {first second : Canvas} (c : Config) (hsheet : first.sheet = second.sheet)
    (htile : ∀ x y, first.tile x y = second.tile x y)
    (hsprite : ∀ slot, first.sprite slot = second.sprite slot) :
    first.layout c = second.layout c := by
  have htile' : first.tile? = second.tile? := by
    funext x y
    rw [tile?, tile?, htile x y]
  have hsprite' : first.sprite? = second.sprite? := by
    funext slot
    rw [sprite?, sprite?, hsprite slot]
  rw [layout, layout, tilePictures, tilePictures, slotPictures, slotPictures, hsheet, htile',
    hsprite']

/-! ### What is listed -/

/-- The quads up to the first fault are those of the layout if there is none. -/
theorem mapM_outline (sheet : Sheet) (c : Config) (sprites : List Sprite) :
    sprites.mapM (outline sheet c) =
      (quadsOf sheet (c.columns * c.tileWidth) (c.rows * c.tileHeight) sprites).2.map fun _ =>
        (quadsOf sheet (c.columns * c.tileWidth) (c.rows * c.tileHeight) sprites).1.map
          Quad.corners := by
  induction sprites with
  | nil => rfl
  | cons s rest ih =>
      rw [List.mapM_cons, ih, outline, quadsOf]
      cases huv : sheet.uv s.id with
      | error fault => rfl
      | ok uv =>
          simp only [bind, Except.bind, pure, Except.pure]
          cases (quadsOf sheet (c.columns * c.tileWidth) (c.rows * c.tileHeight) rest).2 with
          | error fault => rfl
          | ok u => rfl

theorem layout_eq_quadsOf (canvas : Canvas) (c : Config) :
    canvas.layout c =
      (quadsOf canvas.sheet (c.columns * c.tileWidth) (c.rows * c.tileHeight)
        (canvas.pictures c)).2.map fun _ =>
        (quadsOf canvas.sheet (c.columns * c.tileWidth) (c.rows * c.tileHeight)
          (canvas.pictures c)).1.flatMap Quad.corners := by
  rw [layout_eq_mapM_pictures, mapM_outline]
  cases (quadsOf canvas.sheet (c.columns * c.tileWidth) (c.rows * c.tileHeight)
    (canvas.pictures c)).2 with
  | error fault => rfl
  | ok u => rw [List.flatMap_def]; rfl

theorem length_quadsOf {sheet : Sheet} {width height : Int} {sprites : List Sprite}
    (h : (quadsOf sheet width height sprites).2 = .ok ()) :
    (quadsOf sheet width height sprites).1.length = sprites.length := by
  induction sprites with
  | nil => rfl
  | cons s rest ih =>
      rw [quadsOf] at h ⊢
      cases huv : sheet.uv s.id with
      | error fault =>
          rw [huv] at h
          cases h
      | ok uv =>
          rw [huv] at h
          rw [List.length_cons, List.length_cons, ih h]

theorem length_of_layout {canvas : Canvas} {c : Config} {vertices : List Vertex}
    (h : canvas.layout c = .ok vertices) :
    vertices.length = 6 * (canvas.pictures c).length := by
  rw [layout_eq_quadsOf] at h
  cases hquads : (quadsOf canvas.sheet (c.columns * c.tileWidth) (c.rows * c.tileHeight)
      (canvas.pictures c)).2 with
  | error fault =>
      rw [hquads] at h
      cases h
  | ok u =>
      rw [hquads] at h
      cases h
      rw [Quad.length_flatMap_corners, length_quadsOf hquads]
      rfl

/-- A sheet that knows where its own sprites are gives a layout. -/
theorem exists_layout {canvas : Canvas} {a : Active} (h : canvas.active = some a)
    (hsound : canvas.Sound)
    (huv : ∀ id, canvas.sheet.Contains id → ∃ uv, canvas.sheet.uv id = .ok uv) :
    ∃ vertices, canvas.layout a.config = .ok vertices := by
  rw [layout_eq_quadsOf]
  obtain hok | ⟨s, hs, fault, hfault, -⟩ := quadsOf_snd_cases canvas.sheet
    (a.config.columns * a.config.tileWidth) (a.config.rows * a.config.tileHeight)
    (canvas.pictures a.config)
  · rw [hok]
    exact ⟨_, rfl⟩
  · obtain ⟨uv, hok⟩ := huv s.id (hsound.onSheet s.id (shows_of_mem_pictures h hs))
    rw [hfault] at hok
    cases hok

/-- Everything but the list of vertices stays as it is. -/
def KeepsCells (before after : Canvas) : Prop := ∃ arena, after = { before with arena := arena }

instance : IsPreorder Canvas KeepsCells where
  refl canvas := ⟨canvas.arena, rfl⟩
  trans := by
    rintro canvas - - ⟨arena, rfl⟩ ⟨last, rfl⟩
    exact ⟨last, rfl⟩

theorem follows_keepsCells_updateVertices : Action.Follows KeepsCells updateVertices := by
  refine Action.follows_bind (Action.follows_query _) fun c => ?_
  refine Action.follows_bind (Action.follows_ofExcept _) fun width => ?_
  refine Action.follows_bind (Action.follows_ofExcept _) fun height => ?_
  exact Action.follows_bind Action.follows_get fun canvas before => ⟨_, rfl⟩

theorem keepsCells_updateVertices {canvas : Canvas} {a : Active} (h : canvas.active = some a)
    (hsound : canvas.Sound) : canvas.KeepsCells (updateVertices.run canvas).state := by
  rw [run_updateVertices h hsound]
  exact ⟨_, rfl⟩

theorem layout_of_keepsCells {before after : Canvas} (h : before.KeepsCells after) (c : Config) :
    after.layout c = before.layout c := by
  obtain ⟨arena, rfl⟩ := h
  rfl

end Canvas

namespace Stage

variable {δ : Type}

/-- Everything about the canvas but its list of vertices stays as it is. -/
def KeepsCells (before after : Stage δ) : Prop := before.canvas.KeepsCells after.canvas

instance : IsPreorder (Stage δ) KeepsCells where
  refl stage := refl_of Canvas.KeepsCells stage.canvas
  trans _ _ _ hab hbc := trans_of Canvas.KeepsCells hab hbc

variable [Device δ]

theorem follows_keepsCells_render :
    Action.Follows KeepsCells (render : Action (Stage δ) Unit) := by
  have hdevice : ∀ action : Action δ Unit, Action.Follows KeepsCells (onDevice action) :=
    fun action stage => refl_of Canvas.KeepsCells stage.canvas
  refine Action.follows_bind (Action.follows_part (Action.follows_query _) fun _ _ h => h) fun a => ?_
  refine Action.follows_bind (Action.follows_part Canvas.follows_keepsCells_updateVertices
    fun _ _ h => h) fun _ => ?_
  refine Action.follows_bind Action.follows_get fun stage => ?_
  refine Action.follows_bind (Action.follows_log _ _) fun _ => ?_
  exact Action.follows_bind (hdevice _) fun _ => hdevice _

/-- Asked for its vertices, a stage with a sound canvas answers the layout. -/
theorem result_updateVertices {stage : Stage δ} {a : Active} (h : stage.canvas.active = some a)
    (hsound : stage.canvas.Sound) :
    (Command.updateVertices.run.run stage).result =
      Reply.vertices <$> stage.canvas.layout a.config := by
  have hrun := Canvas.run_updateVertices h hsound
  rw [Canvas.layout_eq_quadsOf, Command.run, Action.run_bind, onCanvas, Action.run_part, hrun]
  cases (Canvas.quadsOf stage.canvas.sheet (a.config.columns * a.config.tileWidth)
    (a.config.rows * a.config.tileHeight) (stage.canvas.pictures a.config)).2 with
  | error fault => rfl
  | ok u =>
      simp only [answer, Action.run_query, Canvas.vertices,
        Arena.vertices_writeAll (Arena.wellFormed_clear _), Arena.vertices_clear, List.nil_append]
      rfl

theorem layout_of_listed {layout : Except Fault (List Vertex)} {vertices : List Vertex}
    (h : Reply.vertices <$> layout = .ok (.vertices vertices)) : layout = .ok vertices := by
  cases layout <;> cases h
  rfl

theorem state_updateVertices (stage : Stage δ) :
    (Command.updateVertices.run.run stage).state =
      { stage with canvas := (Canvas.updateVertices.run stage.canvas).state } := by
  rw [Command.run, Action.run_bind, onCanvas, Action.run_part]
  cases (Canvas.updateVertices.run stage.canvas).result with
  | error fault => rfl
  | ok u => rfl

/-- Listing the vertices any number of times leaves all but the list as it is. -/
theorem keepsCells_after_updateVertices (n : Nat) {stage : Stage δ} {a : Active}
    (h : stage.canvas.active = some a) (hsound : stage.canvas.Sound) :
    stage.canvas.KeepsCells
      (stage.after (List.replicate n (.command .updateVertices))).canvas := by
  induction n generalizing stage with
  | zero => exact ⟨stage.canvas.arena, rfl⟩
  | succ n ih =>
      let next := Event.apply stage (.command .updateVertices)
      have hnext : stage.canvas.KeepsCells next.canvas := by
        change stage.canvas.KeepsCells (Command.updateVertices.run.run stage).state.canvas
        rw [state_updateVertices]
        exact Canvas.keepsCells_updateVertices h hsound
      have hsound' : next.canvas.Sound :=
        (keeps_apply stage (.command .updateVertices)).sound hsound
      obtain ⟨arena, harena⟩ := hnext
      have h' : next.canvas.active = some a := by
        rw [harena]
        exact h
      obtain ⟨last, hlast⟩ := ih h' hsound'
      rw [harena] at hlast
      exact ⟨last, hlast⟩

/-- In every state of a run in which the canvas is set up, its vertices are those of the layout:
they can be listed when the sheet knows where its own sprites are, there are six for each tile and
each slot that shows a sprite, and they fit the arena. Listing them any number of times before, or
reaching the same answers to questions about tiles and slots by any other run on any other device,
makes no difference. -/
theorem vertices_eq_layout (sheet : Sheet) (device : δ) (events : List (Event δ))
    (stage : Stage δ) (hstage : (fresh sheet device).after events = stage) (a : Active)
    (h : stage.canvas.active = some a) :
    (Command.updateVertices.run.run stage).result =
        Reply.vertices <$> stage.canvas.layout a.config ∧
      ((∀ id, sheet.Contains id → ∃ uv, sheet.uv id = .ok uv) →
        ∃ vertices, stage.canvas.layout a.config = .ok vertices) ∧
      (∀ vertices, stage.canvas.layout a.config = .ok vertices →
        ∃ tiles sprites, stage.canvas.occupied = .ok tiles ∧
          stage.canvas.activeSprites = .ok sprites ∧
          vertices.length = 6 * (tiles + sprites) ∧ vertices.length ≤ Limits.vertices) ∧
      (∀ n, (Command.updateVertices.run.run
          (stage.after (List.replicate n (.command .updateVertices)))).result =
        (Command.updateVertices.run.run stage).result) ∧
      ∀ {ε : Type} [Device ε] (device' : ε) (events' : List (Event ε)) (stage' : Stage ε)
        (b : Active),
        (fresh sheet device').after events' = stage' → stage'.canvas.active = some b →
        b.config = a.config → (∀ x y, stage'.canvas.tile x y = stage.canvas.tile x y) →
        (∀ slot, stage'.canvas.sprite slot = stage.canvas.sprite slot) →
        (Command.updateVertices.run.run stage').result =
          (Command.updateVertices.run.run stage).result := by
  have hsound : stage.canvas.Sound := hstage ▸ sound_after sheet device events
  have hsheet : stage.canvas.sheet = sheet := hstage ▸ sheet_after (fresh sheet device) events
  refine ⟨result_updateVertices h hsound, ?_, ?_, ?_, ?_⟩
  · rw [← hsheet]
    exact Canvas.exists_layout h hsound
  · intro vertices hvertices
    refine ⟨_, _, Canvas.occupied_eq h (hsound.fits a h) hsound.size_tiles,
      Canvas.activeSprites_eq h (hsound.slots_le_size h), ?_, ?_⟩
    · rw [Canvas.length_of_layout hvertices, Canvas.pictures, List.length_append]
    · rw [Canvas.length_of_layout hvertices, Nat.mul_comm]
      exact Nat.mul_le_mul_right 6 (Canvas.length_pictures_le h hsound)
  · intro n
    have hcells := keepsCells_after_updateVertices n h hsound
    have hsound' := (keeps_after stage (List.replicate n (.command .updateVertices))).sound hsound
    have h' : (stage.after (List.replicate n (.command .updateVertices))).canvas.active =
        some a := by
      obtain ⟨arena, harena⟩ := hcells
      rw [harena]
      exact h
    rw [result_updateVertices h' hsound', result_updateVertices h hsound,
      Canvas.layout_of_keepsCells hcells]
  · intro ε _ device' events' stage' b hstage' hb hconfig htile hsprite
    have hsound' : stage'.canvas.Sound := hstage' ▸ sound_after sheet device' events'
    have hsheet' : stage'.canvas.sheet = sheet :=
      hstage' ▸ sheet_after (fresh sheet device') events'
    rw [result_updateVertices hb hsound', result_updateVertices h hsound, hconfig,
      Canvas.layout_congr a.config (hsheet'.trans hsheet.symm) htile hsprite]

theorem vertices_eq_layout_strayRun :
    let stage := (fresh straySheet Recorder.fresh).after strayRun
    stage.canvas.active = some ⟨⟨3, 2, 8, 8, 1⟩, ⟨⟨1⟩, ⟨2⟩, ⟨3⟩, ⟨4⟩⟩⟩ ∧
      (stage.canvas.occupied = .ok 1 ∧ stage.canvas.activeSprites = .ok 1) ∧
      ∃ vertices, (Command.updateVertices.run.run stage).result = .ok (.vertices vertices) ∧
        vertices.length = 12 := by
  intro stage
  have hactive : stage.canvas.active =
      some ⟨⟨3, 2, 8, 8, 1⟩, ⟨⟨1⟩, ⟨2⟩, ⟨3⟩, ⟨4⟩⟩⟩ := by decide +kernel
  have hoccupied : stage.canvas.occupied = .ok 1 := by decide +kernel
  have hsprites : stage.canvas.activeSprites = .ok 1 := by decide +kernel
  obtain ⟨hresult, hlayout, hlength, -⟩ :=
    vertices_eq_layout straySheet Recorder.fresh strayRun stage rfl _ hactive
  obtain ⟨vertices, hvertices⟩ := hlayout fun id _ => ⟨default, rfl⟩
  obtain ⟨tiles, sprites, htiles, hslots, hcount, -⟩ := hlength vertices hvertices
  rw [hoccupied] at htiles
  rw [hsprites] at hslots
  cases htiles
  cases hslots
  refine ⟨hactive, ⟨hoccupied, hsprites⟩, vertices, ?_, hcount⟩
  rw [hresult, hvertices]
  rfl

end Stage

end Mosaic
