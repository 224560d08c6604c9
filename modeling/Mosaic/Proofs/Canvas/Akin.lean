import Mosaic.Canvas.Command
import Mosaic.Proofs.Canvas.Sound
import Mosaic.Proofs.Canvas.Tiles

/-!
# Canvases that differ in handles

Two canvases are `Akin` when they show the same and are set up alike, except that the resources of
one have other numbers, and that its arena may store other vertices beyond those that count. Every
operation of a canvas comes to the same on both and leaves them akin, because no operation reads
numbers or what the arena stores beyond its length.
-/

namespace Mosaic

/-! ### Other numbers -/

namespace ResourceSet

/-- The resources with other numbers. -/
def rename (f : Nat → Nat) (set : ResourceSet) : ResourceSet :=
  ⟨⟨f set.mesh.id⟩, ⟨f set.program.id⟩, ⟨f set.drawState.id⟩, ⟨f set.texture.id⟩⟩

/-- No resource has a number above `n`. -/
structure Below (n : Nat) (set : ResourceSet) : Prop where
  mesh : set.mesh.id ≤ n
  program : set.program.id ≤ n
  drawState : set.drawState.id ≤ n
  texture : set.texture.id ≤ n

theorem rename_id (set : ResourceSet) : set.rename id = set := rfl

theorem Below.mono {n k : Nat} {set : ResourceSet} (h : set.Below n) (hle : n ≤ k) :
    set.Below k :=
  ⟨Nat.le_trans h.mesh hle, Nat.le_trans h.program hle, Nat.le_trans h.drawState hle,
    Nat.le_trans h.texture hle⟩

theorem Below.rename_congr {n : Nat} {set : ResourceSet} (h : set.Below n) {f g : Nat → Nat}
    (hfg : ∀ k ≤ n, g k = f k) : set.rename g = set.rename f := by
  simp only [rename, hfg _ h.mesh, hfg _ h.program, hfg _ h.drawState, hfg _ h.texture]

end ResourceSet

/-- What a canvas holds, with other numbers of the resources. -/
def Active.rename (f : Nat → Nat) (a : Active) : Active := ⟨a.config, a.resources.rename f⟩

/-! ### Arenas that hold the same vertices -/

namespace Arena

/-- The same vertices count and there is as much room, whatever else is stored. -/
structure Alike (arena other : Arena) : Prop where
  capacity : other.capacity = arena.capacity
  length : other.length = arena.length
  vertices : other.vertices = arena.vertices
  wellFormed : arena.WellFormed
  wellFormed' : other.WellFormed

variable {arena other : Arena}

theorem alike_self (h : arena.WellFormed) : Alike arena arena := ⟨rfl, rfl, rfl, h, h⟩

theorem alike_clear (h : other.capacity = arena.capacity) : Alike arena.clear other.clear :=
  ⟨h, rfl, by rw [vertices_clear, vertices_clear], wellFormed_clear _, wellFormed_clear _⟩

theorem Alike.writeAll (h : Alike arena other) (ps : List Vertex) :
    Alike (arena.writeAll ps) (other.writeAll ps) where
  capacity := by rw [capacity_writeAll, capacity_writeAll, h.capacity]
  length := by rw [length_writeAll, length_writeAll, h.length]
  vertices := by rw [vertices_writeAll h.wellFormed, vertices_writeAll h.wellFormed', h.vertices]
  wellFormed := wellFormed_writeAll h.wellFormed ps
  wellFormed' := wellFormed_writeAll h.wellFormed' ps

theorem matches_clear : Action.Matches Alike (Action.modify clear) (Action.modify clear) :=
  Action.matches_modify fun _ _ h => alike_clear h.capacity

theorem matches_push (quad : Quad) : Action.Matches Alike (push quad) (push quad) := by
  intro arena other h
  by_cases hroom : arena.length + Quad.size ≤ arena.capacity
  · have hroom' : other.length + Quad.size ≤ other.capacity := by rwa [h.length, h.capacity]
    rw [run_push_of_room hroom, run_push_of_room hroom']
    exact ⟨rfl, h.writeAll _⟩
  · have hroom' : ¬ other.length + Quad.size ≤ other.capacity := by rwa [h.length, h.capacity]
    rw [run_push_of_full hroom, run_push_of_full hroom', h.length, h.capacity]
    exact ⟨rfl, h⟩

end Arena

namespace Canvas

/-! ### Akin canvases -/

/-- The second canvas has other numbers and maybe another storage of its arena. -/
structure Akin (f : Nat → Nat) (canvas other : Canvas) : Prop where
  sheet : other.sheet = canvas.sheet
  active : other.active = canvas.active.map (Active.rename f)
  tiles : other.tiles = canvas.tiles
  slots : other.slots = canvas.slots
  arena : canvas.arena.Alike other.arena

variable {f : Nat → Nat} {canvas other : Canvas}

theorem Akin.config (h : Akin f canvas other) : other.config = canvas.config := by
  rw [Canvas.config, Canvas.config, requireActive, requireActive, h.active]
  cases canvas.active <;> rfl

theorem seesTiles_akin (f : Nat → Nat) : SeesTiles (Akin f) where
  sheet h := h.sheet
  config h := h.config
  tiles h := h.tiles
  put i sprite h := { h with tiles := by rw [put, put, h.tiles] }

theorem Akin.resources (h : Akin f canvas other) :
    other.resources = canvas.resources.map (ResourceSet.rename f) := by
  rw [Canvas.resources, Canvas.resources, h.active, Option.map_map, Option.map_map]
  rfl

theorem Akin.active_id (h : Akin id canvas other) : other.active = canvas.active := by
  rw [h.active]
  cases canvas.active <;> rfl

theorem Akin.checkSlot (h : Akin f canvas other) (slot : Nat) :
    canvas.checkSlot slot = other.checkSlot slot := by
  rw [Canvas.checkSlot, Canvas.checkSlot, h.config]

theorem Akin.sprite (h : Akin f canvas other) (slot : Nat) :
    canvas.sprite slot = other.sprite slot := by
  rw [Canvas.sprite, Canvas.sprite, h.checkSlot, h.slots]

theorem Akin.activeSprites (h : Akin f canvas other) :
    canvas.activeSprites = other.activeSprites := by
  rw [Canvas.activeSprites, Canvas.activeSprites, h.config, h.slots]

theorem Akin.geometry (h : Akin f canvas other) :
    Stage.geometry canvas = Stage.geometry other := by
  simp only [Stage.geometry, Canvas.width, Canvas.height, Canvas.bounds, h.config]

theorem Akin.vertices (h : Akin f canvas other) : canvas.vertices = other.vertices :=
  h.arena.vertices.symm

theorem Akin.vertexCount (h : Akin f canvas other) : canvas.vertexCount = other.vertexCount :=
  h.arena.length.symm

/-! ### Operations on akin canvases -/

theorem matches_setSprite (slot : Nat) (sprite : Option SpriteId) (bounds : Rect) :
    Action.Matches (Akin f) (setSprite slot sprite bounds) (setSprite slot sprite bounds) := by
  refine Action.matches_bind (Action.matches_query fun _ _ h => h.checkSlot slot) fun _ => ?_
  refine Action.matches_bind (Action.matches_query fun _ _ h => ?_) fun _ =>
    Action.matches_modify fun _ _ h => { h with slots := ?_ }
  · rw [h.sheet]
  · rw [h.slots]

theorem matches_clear : Action.Matches (Akin f) clear clear := by
  intro canvas other h
  have hmap := h.active
  cases ha : canvas.active with
  | none =>
      rw [ha] at hmap
      simp only [clear, Action.run_query_bind, requireActive, ha, hmap, Option.map_none]
      exact ⟨trivial, h⟩
  | some a =>
      rw [ha] at hmap
      simp only [clear, Action.run_query_bind, requireActive, ha, hmap, Option.map_some]
      exact ⟨rfl, { h with tiles := rfl, slots := rfl }⟩

theorem matches_onArena {α : Type} {action : Action Arena α}
    (h : Action.Matches Arena.Alike action action) :
    Action.Matches (Akin f) (onArena action) (onArena action) :=
  Action.matches_part h (fun _ _ h => h.arena) fun _ _ _ _ h harena => { h with arena := harena }

theorem matches_pushSprite (sheet : Sheet) (width height : Int) (sprite : Sprite) :
    Action.Matches Arena.Alike (pushSprite sheet width height sprite)
      (pushSprite sheet width height sprite) :=
  Action.matches_bind (Action.matches_ofExcept _) fun _ => Arena.matches_push _

theorem matches_pushTile (sheet : Sheet) (c : Config) (width height : Int)
    (tile : Nat × Nat × SpriteId) :
    Action.Matches Arena.Alike (pushTile sheet c width height tile)
      (pushTile sheet c width height tile) :=
  Action.matches_bind (Action.matches_ofExcept _) fun _ => matches_pushSprite _ _ _ _

theorem matches_updateVertices : Action.Matches (Akin f) updateVertices updateVertices := by
  refine Action.matches_bind (Action.matches_query fun _ _ h => h.config.symm) fun c => ?_
  refine Action.matches_bind (Action.matches_ofExcept _) fun width => ?_
  refine Action.matches_bind (Action.matches_ofExcept _) fun height => ?_
  refine Action.matches_get_bind fun canvas other h => ?_
  have htiles : other.shownTiles c = canvas.shownTiles c := by rw [shownTiles, shownTiles, h.tiles]
  have hsprites : other.shownSprites c = canvas.shownSprites c := by
    rw [shownSprites, shownSprites, h.slots]
  rw [h.sheet, htiles, hsprites]
  refine matches_onArena (Action.matches_bind Arena.matches_clear fun _ => ?_)
  refine Action.matches_bind (Action.matches_each fun tile _ => ?_) fun _ =>
    Action.matches_each fun sprite _ => matches_pushSprite _ _ _ sprite
  exact matches_pushTile _ _ _ _ tile

/-! ### Lives of a canvas -/

/-- Of a canvas that was just set up only the sheet and the room of the arena are from before. -/
theorem akin_opened (c : Config) (set : ResourceSet) (hsheet : other.sheet = canvas.sheet)
    (hcapacity : other.arena.capacity = canvas.arena.capacity) :
    Akin f (Stage.opened c set canvas) (Stage.opened c (set.rename f) other) :=
  ⟨hsheet, rfl, rfl, rfl, Arena.alike_clear hcapacity⟩

theorem Akin.closed (h : Akin f canvas other) :
    Akin f (Stage.closed canvas) (Stage.closed other) :=
  ⟨h.sheet, rfl, h.tiles, h.slots, Arena.alike_clear h.arena.capacity⟩

theorem Akin.deactivated (h : Akin f canvas other) :
    Akin f { canvas with active := none } { other with active := none } :=
  ⟨h.sheet, rfl, h.tiles, h.slots, h.arena⟩

/-- Numbers that the canvas does not have do not matter. -/
theorem Akin.rename_congr (h : Akin f canvas other) {g : Nat → Nat} {n : Nat}
    (hbelow : ∀ a, canvas.active = some a → a.resources.Below n)
    (hfg : ∀ k ≤ n, g k = f k) : Akin g canvas other := by
  refine { h with active := ?_ }
  rw [h.active]
  cases ha : canvas.active with
  | none => rfl
  | some a => rw [Option.map_some, Option.map_some, Active.rename, Active.rename,
      (hbelow a ha).rename_congr hfg]

end Canvas

end Mosaic
