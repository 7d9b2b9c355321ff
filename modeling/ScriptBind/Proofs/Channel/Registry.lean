import ScriptBind.Proofs.Channel.Lives
import Mathlib.Data.List.Nodup

/-!
# ScriptBind.Proofs.Channel.Registry

What the tables of bridges say after whatever has happened.

* `Boundary.Registry` - the bridges by the events, the states of keys, and what a crossing finds.
* `Boundary.Run.registry` - that is what they say at any time.
-/

namespace ScriptBind

/-! ### What the tables say -/

namespace Registered

open Boundary

variable {lib : Library} {b b' : Boundary} {events new : List Event} {e : ShapeId} {d : ChanDir}
  {l : Link} {x : Bridge}

theorem of_bridges_eq_nil (h : b.bridges = []) : Registered [] b where
  apart := h ▸ .nil
  known := fun l hl => by cases hl
  closing := fun x hx => by rw [h] at hx; cases hx
  life := fun l => by rw [h]; exact .unknown
  closed := fun l hl => by cases hl

theorem live_iff (h : Registered events b) : Live events l ↔ ∃ x ∈ b.bridges, x.link = l := by
  have hstarted : Event.started l ∈ events ↔ .started l ∈ history l events := by
    rw [mem_history, and_iff_left]; rfl
  have hremoved : Event.removed l ∈ events ↔ .removed l ∈ history l events := by
    rw [mem_history, and_iff_left]; rfl
  have hbridge : (∃ x ∈ b.bridges, x.link = l) ↔ (bridgeAt b.bridges l).isSome := by
    simp [bridgeAt, List.find?_isSome]
  have hlife := h.life l
  rw [Live, hstarted, hremoved, hbridge]
  generalize history l events = evs, bridgeAt b.bridges l = found at hlife
  cases hlife <;> simp

/-- A channel that crosses again meets the same channel, and that one crosses back to it. -/
theorem crossing (h : Registered events b) (hx : x ∈ b.bridges) :
    b.scriptSide x.element x.direction x.native = (x.script, b) ∧
      b.nativeSide x.element x.direction x.script = (x.native, b) := by
  constructor
  · rcases b.scriptSide_cases x.element x.direction x.native with ⟨y, hy, hlink, heq⟩ | ⟨hnone, _⟩
    · obtain rfl : x = y := h.apart.eq hx hy (by rw [hlink]; exact ⟨rfl, rfl, .inl rfl⟩)
      exact heq
    · exact absurd rfl (hnone x hx rfl rfl)
  · rcases b.nativeSide_cases x.element x.direction x.script with ⟨y, hy, hlink, heq⟩ | ⟨hnone, _⟩
    · obtain rfl : x = y := h.apart.eq hx hy (by rw [hlink]; exact ⟨rfl, rfl, .inr rfl⟩)
      exact heq
    · exact absurd rfl (hnone x hx rfl rfl)

end Registered

namespace Boundary

/-- As long as a bridge is not removed, its channels cross to each other. -/
def Crosses (lib : Library) (b : Boundary) (l : Link) : Prop :=
  ∀ events b', Run lib b events b' → .removed l ∉ events →
    b'.scriptSide l.element l.direction l.native = (l.script, b') ∧
      b'.nativeSide l.element l.direction l.script = (l.native, b')

structure Registry (lib : Library) (events : List Event) (b : Boundary) : Prop where
  /-- A table is asked by the two channels of each live link, and by no others. -/
  table : ∀ e d, ∃ live : List Link, live.Nodup ∧
    (∀ l, l ∈ live ↔ Live events l ∧ l.element = e ∧ l.direction = d) ∧
    b.keysOf e d = live.flatMap Link.keys ∧ b.countOf e d = live.length
  apart : ∀ l l', Live events l → Live events l' → l.Meets l' → l = l'
  distinct : ∀ e d, (b.keysOf e d).Nodup
  /-- A link comes only once, with one worker, and it goes only when its worker has stopped. -/
  life : ∀ l, Life l (history l events) (bridgeAt b.bridges l)
  state : ∀ l x, bridgeAt b.bridges l = some x → ∀ key ∈ l.keys,
    b.stateOf l.element l.direction key =
      if x.worker.mode = .stopped then .terminated else .active
  absent : ∀ e d key, b.stateOf e d key = .absent ↔ key ∉ b.keysOf e d
  closed : ∀ l, .stopped l ∈ events → b.Closed l
  scriptSide : ∀ e d n, n < b.natives.size →
    (b.scriptSide e d n).2.Crosses lib ⟨e, d, n, (b.scriptSide e d n).1⟩
  nativeSide : ∀ e d k, k < b.scripts.size →
    (b.nativeSide e d k).2.Crosses lib ⟨e, d, (b.nativeSide e d k).1, k⟩

end Boundary

namespace Registered

open Boundary

variable {lib : Library} {b b' : Boundary} {events new : List Event} {e : ShapeId} {d : ChanDir}
  {l : Link} {x : Bridge}

theorem crosses (h : Registered events b) (hx : x ∈ b.bridges) : b.Crosses lib x.link := by
  intro new b' hrun hremoved
  have h' := hrun.registered h
  obtain ⟨hstarted, hlive⟩ := h.live_iff.2 ⟨x, hx, rfl⟩
  obtain ⟨y, hy, hlink⟩ := h'.live_iff.1
    ⟨List.mem_append_left _ hstarted, fun hmem => (List.mem_append.1 hmem).elim hlive hremoved⟩
  rw [← hlink]
  exact h'.crossing hy

theorem table (h : Registered events b) (e : ShapeId) (d : ChanDir) :
    ∃ live : List Link, live.Nodup ∧
      (∀ l, l ∈ live ↔ Live events l ∧ l.element = e ∧ l.direction = d) ∧
      b.keysOf e d = live.flatMap Link.keys ∧ b.countOf e d = live.length := by
  have hkeys : b.keysOf e d = ((b.bridgesOf e d).map (·.link)).flatMap Link.keys := by
    rw [keysOf, List.flatMap_map]
    rfl
  refine ⟨(b.bridgesOf e d).map (·.link), ?_, fun l => ?_, hkeys, ?_⟩
  · have hapart : Apart (b.bridgesOf e d) := h.apart.sublist List.filter_sublist
    refine List.pairwise_map.2 (List.Pairwise.imp (fun hxy heq => hxy ?_) hapart)
    rw [heq]
    exact Link.meets_self _
  · rw [h.live_iff, List.mem_map]
    constructor
    · rintro ⟨x, hx, rfl⟩
      obtain ⟨hmem, hserves⟩ := List.mem_filter.1 hx
      exact ⟨⟨x, hmem, rfl⟩, serves_iff.1 hserves⟩
    · rintro ⟨⟨x, hx, rfl⟩, hserves⟩
      exact ⟨x, List.mem_filter.2 ⟨hx, serves_iff.2 hserves⟩, rfl⟩
  · rw [countOf, hkeys]
    simp [List.length_flatMap, Link.keys, Function.comp_def]

theorem apart_live {l' : Link} (h : Registered events b) (hl : Live events l) (hl' : Live events l')
    (hmeets : l.Meets l') : l = l' := by
  obtain ⟨x, hx, rfl⟩ := h.live_iff.1 hl
  obtain ⟨y, hy, rfl⟩ := h.live_iff.1 hl'
  rw [h.apart.eq hx hy hmeets]

/-- Bridges of one table that are found by one channel are one. -/
theorem eq_of_mem_keys (h : Registered events b) {y : Bridge} (hx : x ∈ b.bridgesOf e d)
    (hy : y ∈ b.bridgesOf e d) {key : ChanKey} (hxk : key ∈ x.keys) (hyk : key ∈ y.keys) :
    x = y := by
  obtain ⟨hxb, hxs⟩ := List.mem_filter.1 hx
  obtain ⟨hyb, hys⟩ := List.mem_filter.1 hy
  obtain ⟨rfl, rfl⟩ := serves_iff.1 hxs
  obtain ⟨he, hd⟩ := serves_iff.1 hys
  refine h.apart.eq hxb hyb ⟨he.symm, hd.symm, ?_⟩
  cases key <;> simp [Bridge.keys] at hxk hyk
  · exact .inl (hxk.symm.trans hyk)
  · exact .inr (hxk.symm.trans hyk)

theorem nodup_keysOf (h : Registered events b) (e : ShapeId) (d : ChanDir) :
    (b.keysOf e d).Nodup := by
  refine List.nodup_flatMap.2 ⟨fun x _ => by simp [Bridge.keys], ?_⟩
  have hapart : Apart (b.bridgesOf e d) := h.apart.sublist List.filter_sublist
  refine List.Pairwise.imp_of_mem (fun {x y} hx hy hxy key hxk hyk => hxy ?_) hapart
  rw [h.eq_of_mem_keys hx hy hxk hyk]
  exact Link.meets_self _

theorem stateOf_eq (h : Registered events b) (hx : bridgeAt b.bridges l = some x) {key : ChanKey}
    (hkey : key ∈ l.keys) : b.stateOf l.element l.direction key =
      if x.worker.mode = .stopped then .terminated else .active := by
  obtain ⟨hmem, rfl⟩ := mem_of_bridgeAt hx
  replace hkey : key ∈ x.keys := hkey
  have hof : x ∈ b.bridgesOf x.element x.direction :=
    List.mem_filter.2 ⟨hmem, serves_iff.2 ⟨rfl, rfl⟩⟩
  rw [stateOf]
  cases hfind : (b.bridgesOf x.link.element x.link.direction).find? (·.keys.contains key) with
  | none => exact absurd hkey (by simpa using List.find?_eq_none.1 hfind x hof)
  | some y =>
    have hykey : key ∈ y.keys := by simpa using List.find?_some hfind
    rw [h.eq_of_mem_keys hof (List.mem_of_find?_eq_some hfind) hkey hykey]

theorem stateOf_eq_absent {key : ChanKey} : b.stateOf e d key = .absent ↔ key ∉ b.keysOf e d := by
  have hfind : key ∉ b.keysOf e d ↔ (b.bridgesOf e d).find? (·.keys.contains key) = none := by
    simp [keysOf]
  rw [hfind, stateOf]
  cases (b.bridgesOf e d).find? (·.keys.contains key) with
  | none => simp
  | some x => by_cases hmode : x.worker.mode = .stopped <;> simp [hmode]

theorem scriptSide_crosses {n : Nat} (h : Registered events b) (hn : n < b.natives.size) :
    (b.scriptSide e d n).2.Crosses lib ⟨e, d, n, (b.scriptSide e d n).1⟩ := by
  have hstep : Step lib b (b.startedBy (b.scriptSide e d n).2) (b.scriptSide e d n).2 :=
    .scriptSide hn
  have h' := (hstep.turn h).registered h hstep.later
  rcases b.scriptSide_cases e d n with ⟨x, hx, hlink, heq⟩ | ⟨_, heq⟩ <;> rw [heq] at h' ⊢
  · exact hlink ▸ h.crosses hx
  · exact h'.crosses (x := ⟨e, d, n, b.scripts.size, .start⟩) (by simp [addBridge])

theorem nativeSide_crosses {k : Nat} (h : Registered events b) (hk : k < b.scripts.size) :
    (b.nativeSide e d k).2.Crosses lib ⟨e, d, (b.nativeSide e d k).1, k⟩ := by
  have hstep : Step lib b (b.startedBy (b.nativeSide e d k).2) (b.nativeSide e d k).2 :=
    .nativeSide hk
  have h' := (hstep.turn h).registered h hstep.later
  rcases b.nativeSide_cases e d k with ⟨x, hx, hlink, heq⟩ | ⟨_, heq⟩ <;> rw [heq] at h' ⊢
  · exact hlink ▸ h.crosses hx
  · exact h'.crosses (x := ⟨e, d, b.natives.size, k, .start⟩) (by simp [addBridge])

end Registered

/-- Whatever happens, in any order. -/
theorem Boundary.Run.registry {lib : Library} {b₀ b : Boundary} {events : List Event}
    (hrun : b₀.Run lib events b) (hstart : b₀.bridges = []) : b.Registry lib events :=
  have h : Registered events b := hrun.registered (.of_bridges_eq_nil hstart)
  { table := h.table
    apart := fun _ _ => h.apart_live
    distinct := h.nodup_keysOf
    life := h.life
    state := fun _ _ hx _ hkey => h.stateOf_eq hx hkey
    absent := fun _ _ _ => Registered.stateOf_eq_absent
    closed := h.closed
    scriptSide := fun _ _ _ hn => h.scriptSide_crosses hn
    nativeSide := fun _ _ _ hk => h.nativeSide_crosses hk }

/-! ### A native channel that crosses and closes -/

def crossedLink : Link := ⟨0, .both, 0, 0⟩

/-- A native channel, and the script channel that goes with it. -/
def crossedAt (native script : Bool) (modes : List Mode) : Boundary :=
  ⟨0, #[⟨none, [], [], native⟩], #[⟨⟨none, [], [], script⟩, ⟨none, [], [], script⟩⟩],
    modes.map fun mode => ⟨0, .both, 0, 0, ⟨mode, .none⟩⟩, []⟩

def uncrossed : Boundary := ⟨0, #[.new none], #[], [], []⟩

theorem run_crossedLink (lib : Library) : uncrossed.Run lib
    [.started crossedLink, .stopped crossedLink, .removed crossedLink]
    (crossedAt true true []) := by
  have crossed : uncrossed.Run lib [.started crossedLink] (crossedAt false false [.forwarding]) :=
    .snoc .nil (.scriptSide (e := 0) (d := .both) (n := 0) (by decide))
  have closed : uncrossed.Run lib [.started crossedLink] (crossedAt true false [.forwarding]) :=
    .snoc crossed (.useNative (i := 0) rfl .close)
  have noticed := Boundary.Run.snoc closed (.works (i := 0) rfl rfl rfl (.noticeNative rfl rfl rfl))
  replace noticed : uncrossed.Run lib [.started crossedLink]
    (crossedAt true false [.drainingNative]) := noticed
  have stopped := Boundary.Run.snoc noticed (.works (i := 0) rfl rfl rfl (.finish rfl))
  replace stopped : uncrossed.Run lib [.started crossedLink, .stopped crossedLink]
    (crossedAt true true [.stopped]) := stopped
  have removed := Boundary.Run.snoc stopped (.remove (i := 0) rfl rfl)
  exact removed

theorem registry_crossedLink : uncrossed.bridges = [] ∧
    uncrossed.Run ⟨.ofList [], .empty⟩
      [.started crossedLink, .stopped crossedLink, .removed crossedLink] (crossedAt true true []) ∧
    (crossedAt true true []).Registry ⟨.ofList [], .empty⟩
      [.started crossedLink, .stopped crossedLink, .removed crossedLink] :=
  ⟨rfl, run_crossedLink _, (run_crossedLink _).registry rfl⟩

end ScriptBind
