import ScriptBind.Proofs.Declaration.Layout

/-!
# ScriptBind.Proofs.Declaration.References

What the names of declared types refer to, in bodies, signatures and conversions.

* `Declaration.Spells` - the short and the full name of a declared type.
* `Declaration.Refers` - the name leads to the node of the declared type, unless it is predeclared.
* `Declaration.refers_of_lower` - this holds of every name in a lowered declaration.
-/

namespace ScriptBind

open Lowering

/-- A type of that name, or another name for a type. -/
def TypeKind.IsDeclared : TypeKind → Prop
  | .named .. | .aliasOf .. => True
  | _ => False

theorem not_isDeclared_of_predeclaredKind? {n key : String} {kind : TypeKind}
    (h : predeclaredKind? n = some (key, kind)) : ¬kind.IsDeclared := by
  unfold predeclaredKind? at h
  split at h <;> cases h <;> exact id

namespace Lowering

variable {package : String} {g : TypeGraph} {nodes : PlaceNodes} {t : TypeDecl} {id id' : TypeId}

theorem Declares.isDeclared (h : Declares package g nodes t id) :
    ∃ kind, g.nodes[id]? = some kind ∧ kind.IsDeclared := by
  obtain ⟨_, hdeclared⟩ := h
  split at hdeclared
  · obtain ⟨target, _, hnode⟩ := hdeclared
    exact ⟨_, hnode, trivial⟩
  · obtain ⟨body, _, hnode⟩ := hdeclared
    exact ⟨_, hnode, trivial⟩

/-- A name that is neither in scope nor predeclared leads to what is declared under its full
name. -/
theorem name_eq_ok {s : State} {scope : List String} {n : String} (hscope : n ∉ scope)
    (hkind : predeclaredKind? n = none) (hdotted : ∀ p ∈ s.graph.names, hasDot p.1 = true)
    (hid : s.graph.lookup (qualify package n) = some id) :
    name package scope n s = .ok (id, s) := by
  rw [name, if_neg (fun h => hscope (List.contains_iff_mem.1 h)), hkind]
  dsimp only
  split
  · rename_i hexact
    rw [qualify_of_hasDot (hdotted _ (mem_of_lookup hexact)), hexact] at hid
    rw [Option.some.inj hid]
  · rw [hid]

end Lowering

namespace Declaration

/-- The short name of a declared type, or its full name. -/
def Spells (d : Declaration) (t : TypeDecl) (n : String) : Prop :=
  n = t.name ∨ n = d.qualifiedName t.name

/-- Outside the scope of a type parameter of that name, the name of a declared type leads to its
node just if it is not predeclared. -/
def Refers (d : Declaration) (g : TypeGraph) (nodes : PlaceNodes) (scope : List String) (n : String)
    (id : TypeId) : Prop :=
  ∀ t ∈ d.types, d.Spells t n → n ∉ scope →
    (Declares d.package.name g nodes t id ↔ predeclaredKind? n = none)

variable {d : Declaration} {l : Lowered} {nodes : PlaceNodes} {t : TypeDecl} {n : String}

theorem Spells.qualify_eq (h : d.Spells t n) :
    qualify d.package.name n = qualify d.package.name t.name := by
  rcases h with rfl | rfl
  · rfl
  · exact qualify_of_hasDot (hasDot_qualify _ _)

theorem Layout.refers (h : d.Layout l nodes) {scope : List String} {id : TypeId}
    (hmeans : Means d.package.name l.graph scope n id) : d.Refers l.graph nodes scope n id := by
  intro t ht hspells hscope
  obtain ⟨declared, hdeclared⟩ := h.declares ht
  rw [Means, if_neg hscope] at hmeans
  cases hkind : predeclaredKind? n with
  | none =>
    rw [hkind] at hmeans
    have hid : l.graph.lookup (qualify d.package.name n) = some id := hmeans
    rw [hspells.qualify_eq, hdeclared.1] at hid
    cases hid
    exact ⟨fun _ => rfl, fun _ => hdeclared⟩
  | some found =>
    obtain ⟨key, kind⟩ := found
    rw [hkind] at hmeans
    have hnode : l.graph.nodes[id]? = some kind := hmeans
    refine ⟨fun hid => ?_, fun hnone => by cases hnone⟩
    obtain ⟨kind', hnode', hkind'⟩ := hid.isDeclared
    cases hnode.symm.trans hnode'
    exact absurd hkind' (not_isDeclared_of_predeclaredKind? hkind)

theorem Layout.name_eq_ok (h : d.Layout l nodes) (ht : t ∈ d.types) (hspells : d.Spells t n)
    (hkind : predeclaredKind? n = none) {scope : List String} (hscope : n ∉ scope) {s : State}
    (hs : s.graph.names = l.graph.names) :
    ∃ id, Declares d.package.name l.graph nodes t id ∧
      Lowering.name d.package.name scope n s = .ok (id, s) := by
  obtain ⟨id, hid⟩ := h.declares ht
  obtain ⟨_, hsound⟩ := h.sound
  refine ⟨id, hid, Lowering.name_eq_ok hscope hkind ?_ ?_⟩
  · rw [hs]
    exact hsound.dotted
  · rw [TypeGraph.lookup, hs, hspells.qualify_eq]
    exact hid.1

/-- In the types, signatures and conversions of a lowered declaration, the short and the full name
of a declared type lead to its node where no type parameter hides them, just if they are not
predeclared. Where all names are declared, such a name can always be written. -/
theorem refers_of_lower (h : d.lower = .ok l) :
    ∃ nodes, d.lowerNodes = .ok (l, nodes) ∧ nodes.map (·.1) = d.places ∧
      (∀ p ∈ nodes, p.1.At l.graph d.package.name (d.Refers l.graph nodes) p.2) ∧
      ∀ t ∈ d.types, ∀ n, d.Spells t n → predeclaredKind? n = none → ∀ scope, n ∉ scope →
        ∀ s : State, s.graph.names = l.graph.names →
          ∃ id, Declares d.package.name l.graph nodes t id ∧
            Lowering.name d.package.name scope n s = .ok (id, s) := by
  obtain ⟨nodes, hnodes, hlayout⟩ := exists_layout h
  refine ⟨nodes, hnodes, hlayout.laid.places_eq, fun p hp => ?_, ?_⟩
  · exact (hlayout.laid.stands p hp).mono (.refl _) fun _ _ _ => hlayout.refers
  · exact fun t ht n hspells hkind scope hscope s => hlayout.name_eq_ok ht hspells hkind hscope

/-- Both names, beside a type parameter that hides the short one. -/
def quay : Declaration where
  package := ⟨"quay", none⟩
  types := [⟨"Crane", "map[string]quay.Crane", false, [], true⟩]
  functions := [⟨"Lift", "func[Crane any](Crane, quay.Crane)", true⟩]
  methods := []
  convert := [⟨"chan Crane", .both⟩]

theorem refers_of_lower_quay : ∃ l nodes id element, quay.lower = .ok l ∧
    (TypePlace.conversion ⟨"chan Crane", .both⟩, id) ∈ nodes ∧
    l.graph.nodes[id]? = some (.chan .both element) ∧
    Declares "quay" l.graph nodes ⟨"Crane", "map[string]quay.Crane", false, [], true⟩ element := by
  have hlower := lower_eq quay
  have hrun : (quay.lowerNodes.map fun r => decide
      ((TypePlace.conversion ⟨"chan Crane", .both⟩, 5) ∈ r.2 ∧
        r.1.graph.nodes[5]? = some (.chan .both 0))) = .ok true := by
    decide +kernel
  cases hnodes : quay.lowerNodes with
  | error e =>
    rw [hnodes] at hrun
    cases hrun
  | ok r =>
    obtain ⟨l, nodes⟩ := r
    rw [hnodes] at hrun hlower
    obtain ⟨hmem, hchan⟩ := of_decide_eq_true (Except.ok.inj hrun)
    obtain ⟨nodes', hnodes', _, hrefers, _⟩ := refers_of_lower hlower
    cases hnodes.symm.trans hnodes'
    refine ⟨l, nodes, 5, 0, hlower, hmem, hchan, ?_⟩
    have hread : typeIn? "chan Crane" = some (.chan .both (.name "Crane" [])) := by
      decide +kernel
    obtain ⟨e, he, hstands⟩ := hrefers _ hmem
    cases hread.symm.trans he
    rw [TypeExpr.At] at hstands
    obtain ⟨element, helement, hname⟩ := hstands
    cases hchan.symm.trans helement
    rw [TypeExpr.At] at hname
    exact (hname _ List.mem_cons_self (.inl rfl) List.not_mem_nil).2 (by decide)

/-- A type with the name of a predeclared one, which the conversion is meant for. -/
def shade : Declaration where
  package := ⟨"shade", none⟩
  types := [⟨"string", "int", false, [], true⟩]
  functions := []
  methods := []
  convert := [⟨"string", .both⟩]

/-- The conversion has the node of the predeclared type instead. -/
theorem declared_string_hidden : shade.check = .ok () ∧
    ∃ l nodes declared id, shade.lower = .ok l ∧ shade.lowerNodes = .ok (l, nodes) ∧
      l.graph.lookup "shade.string" = some declared ∧
      (TypePlace.conversion ⟨"string", .both⟩, id) ∈ nodes ∧ id ≠ declared ∧
      l.graph.nodes[id]? = some .string := by
  have hlower := lower_eq shade
  have hrun : (shade.lowerNodes.map fun r => decide
      (r.1.graph.lookup "shade.string" = some 0 ∧
        (TypePlace.conversion ⟨"string", .both⟩, 2) ∈ r.2 ∧
        r.1.graph.nodes[2]? = some .string)) = .ok true := by
    decide +kernel
  refine ⟨rfl, ?_⟩
  cases hnodes : shade.lowerNodes with
  | error e =>
    rw [hnodes] at hrun
    cases hrun
  | ok r =>
    obtain ⟨l, nodes⟩ := r
    rw [hnodes] at hrun hlower
    obtain ⟨hlookup, hmem, hnode⟩ := of_decide_eq_true (Except.ok.inj hrun)
    exact ⟨l, nodes, 0, 2, hlower, rfl, hlookup, hmem, nofun, hnode⟩

end Declaration
end ScriptBind
