import ComponentSpec.Proofs.Resolution

/-!
# ComponentSpec.Proofs.Extension

One more component at the end of a document.

* `Registry.ExtendedBy`: a registry with one more name, in which all others are what they were.
* `Registry.Adds.extendedBy`: to add a declaration does no more than that.
* `Reached.violation?_concat_iff`: the references that were met stay so. Only those of a new
  definition are left to check.
* `compile_append`: when a document with one more entry compiles, and to what.
-/

namespace ComponentSpec

open Yaml (Node Mapping)

variable {o : Options} {ds : List (String × ComponentDecl)} {r r' : Registry} {name : String}
  {d : ComponentDecl}

/-! ## Registries -/

/-- A registry with one more name, which comes last. -/
structure Registry.ExtendedBy (r : Registry) (name : String) (r' : Registry) : Prop where
  names : r'.names = r.names ++ [name]
  bindings : ∃ b, b.name = name ∧ r'.bindings = r.bindings ++ [b]
  objects : ∀ n ∈ r.names, r'.object? n = r.object? n
  components : ∀ n ∈ r.names, r'.component? n = r.component? n
  targets : ∀ n ∈ r.names, r'.aliasTarget? n = r.aliasTarget? n
  sharing : ∀ a ∈ r.names, ∀ b ∈ r.names, r'.shares? a b = r.shares? a b
  /-- The new name is a subscriber exactly if its component subscribes. -/
  subscribers : ∀ publisher notification, r'.subscribers publisher notification =
    r.subscribers publisher notification ++
      if (r'.component? name).any (Component.subscribesTo publisher notification) then [name]
      else []

namespace Registry

theorem Adds.aliasTarget?_eq (new : r.IsNew name) (h : r.Adds name d r') {n : String}
    (hm : n ∈ r.names) : r'.aliasTarget? n = r.aliasTarget? n := by
  have ne := Coherent.ne_of_mem new.unbound n hm
  cases h with
  | definition _ => rfl
  | uses _ => rw [aliasTarget?_share new, if_neg ne]

theorem Adds.bindings_eq (new : r.IsNew name) (h : r.Adds name d r') :
    ∃ b, b.name = name ∧ r'.bindings = r.bindings ++ [b] := by
  cases h with
  | definition _ => exact ⟨_, rfl, bindings_define new⟩
  | uses _ => exact ⟨_, rfl, bindings_share new⟩

/-- To add a declaration extends a registry by its name. -/
theorem Adds.extendedBy (new : r.IsNew name) (h : r.Adds name d r') : r.ExtendedBy name r' where
  names := h.names new.unbound
  bindings := h.bindings_eq new
  objects := fun _ hm => h.object?_eq new hm
  components := fun _ hm => h.component?_eq new hm
  targets := fun _ hm => h.aliasTarget?_eq new hm
  sharing := fun _ ha _ hb => by
    rw [shares?, shares?, h.object?_eq new ha, h.object?_eq new hb]
  subscribers := fun publisher notification => by
    have old : ∀ n ∈ r.names,
        (r'.component? n).any (Component.subscribesTo publisher notification) =
          (r.component? n).any (Component.subscribesTo publisher notification) := by
      intro n hm
      rw [h.component?_eq new hm]
    rw [subscribers_eq, subscribers_eq, h.names new.unbound, List.filter_append,
      List.filter_congr old, List.filter_cons, List.filter_nil]

end Registry

/-! ## The first phase -/

theorem reached_concat_iff (h : Reached o ds r) (free : o.isReserved name = false) :
    Reached o (ds ++ [(name, d)]) r' ↔ name ∉ r.names ∧ r.Adds name d r' := by
  rw [reached_iff_foldlM, foldlM_concat_eq_ok_iff]
  constructor
  · rintro ⟨r₀, run, step⟩
    cases h.unique (reached_iff_foldlM.2 run)
    rcases assembleOne_ok_iff.1 step with ⟨hr, -⟩ | ⟨-, hnew, hadd⟩
    · rw [free] at hr
      cases hr
    · exact ⟨hnew, hadd⟩
  · rintro ⟨hnew, hadd⟩
    exact ⟨r, reached_iff_foldlM.1 h, assembleOne_ok_iff.2 (.inr ⟨free, hnew, hadd⟩)⟩

/-! ## Both phases -/

/-- A declaration can be added: its name is new, it can be assembled, and a definition meets the
references of a registry that it is part of itself. -/
def Fits (r : Registry) (name : String) (d : ComponentDecl) : Prop :=
  name ∉ r.names ∧ ∃ a, (assemble r name d).outcome = .ok a ∧
    ∀ c, a = .component c → c.violation? (r.define name c) name = none

theorem Reached.isLinked (h : Reached o ds r) (checked : r.violation? = none) {n : String}
    {c : Component} (hc : r.component? n = some c) : c.IsLinked r :=
  h.violation?_eq_none_iff.1 checked n c hc

/-- What was linked stays so, and an alias shares a component that is linked. -/
theorem Reached.violation?_concat (h : Reached o ds r) (checked : r.violation? = none)
    (h' : Reached o (ds ++ [(name, d)]) r') (new : r.IsNew name) (hadd : r.Adds name d r')
    (linked : ∀ fields c, d = .definition fields → r'.component? name = some c → c.IsLinked r') :
    r'.violation? = none := by
  have within : r.Within r' := hadd.within new
  refine h'.violation?_eq_none_iff.2 fun n c hc => ?_
  cases hadd with
  | definition _ =>
    by_cases hn : n = name
    · subst hn
      exact linked _ c rfl hc
    · rw [Registry.component?_define new, if_neg hn] at hc
      exact (h.isLinked checked hc).mono within
  | @uses target object ho =>
    have shared : r.component? target = some object.component :=
      Registry.component?_of_object? ho
    by_cases hn : n = name
    · rw [Registry.component?_share new, if_pos hn] at hc
      cases hc
      exact (h.isLinked checked shared).mono within
    · rw [Registry.component?_share new, if_neg hn] at hc
      exact (h.isLinked checked hc).mono within

theorem Reached.fits_iff (h : Reached o ds r) (checked : r.violation? = none)
    (free : o.isReserved name = false) :
    (∃ r', Reached o (ds ++ [(name, d)]) r' ∧ r'.violation? = none) ↔ Fits r name d := by
  constructor
  · rintro ⟨r', h', checked'⟩
    obtain ⟨hnew, hadd⟩ := (reached_concat_iff h free).1 h'
    refine ⟨hnew, ?_⟩
    cases hadd with
    | @definition fields c hc =>
      refine ⟨.component c, assemble_component_iff.2 ⟨fields, rfl, hc⟩, ?_⟩
      rintro _ ⟨⟩
      have bound : (r.define name c).component? name = some c := by
        rw [Registry.component?_define (h.coherent.isNew hnew), if_pos rfl]
      exact Component.violation?_eq_none_iff.2 (h'.isLinked checked' bound)
    | @uses target object ho =>
      have bound := Registry.mem_names_of_object? ho
      exact ⟨.aliasOf target, assemble_aliasOf_iff.2 ⟨rfl, bound⟩, fun c hc => by cases hc⟩
  · rintro ⟨hnew, a, ha, checkedNew⟩
    have new := h.coherent.isNew hnew
    cases a with
    | component c =>
      obtain ⟨fields, rfl, hc⟩ := assemble_component_iff.1 ha
      have hadd : r.Adds name (.definition fields) (r.define name c) := .definition hc
      have h' := (reached_concat_iff h free).2 ⟨hnew, hadd⟩
      refine ⟨_, h', h.violation?_concat checked h' new hadd fun _ c' _ hc' => ?_⟩
      rw [Registry.component?_define new, if_pos rfl] at hc'
      cases hc'
      exact Component.violation?_eq_none_iff.1 (checkedNew c rfl)
    | aliasOf target =>
      obtain ⟨rfl, bound⟩ := assemble_aliasOf_iff.1 ha
      obtain ⟨object, ho⟩ := Registry.exists_object bound
      have hadd : r.Adds name (.uses target) (r.share name object (r.rootOf target)) := .uses ho
      have h' := (reached_concat_iff h free).2 ⟨hnew, hadd⟩
      exact ⟨_, h', h.violation?_concat checked h' new hadd fun _ _ hd _ => by cases hd⟩

theorem decode_concat {text text' : String} {entries : List Node} {entry : Node}
    (h : componentEntries o text = .ok entries)
    (h' : componentEntries o text' = .ok (entries ++ [entry]))
    (hd : (ComponentDecl.readNamed entry).outcome = .ok (name, d)) (hds : decode o text = .ok ds) :
    decode o text' = .ok (ds ++ [(name, d)]) := by
  rw [decode_of_entries h] at hds
  rw [decode_of_entries h']
  exact readAll_split_iff.2 ⟨ds, _, [], rfl, hds, hd, rfl⟩

/-- A document that compiles, with one more entry, compiles exactly if the declaration fits. Then it
compiles to the registry of the document with the name of the entry added to it: nothing that was
there changes. -/
theorem compile_append {text text' : String} {entries : List Node} {entry : Node}
    (h : componentEntries o text = .ok entries)
    (h' : componentEntries o text' = .ok (entries ++ [entry]))
    (hd : (ComponentDecl.readNamed entry).outcome = .ok (name, d))
    (free : o.isReserved name = false) (hr : (compile o text).outcome = .ok r) :
    ((∃ r', (compile o text').outcome = .ok r') ↔ Fits r name d) ∧
    ∀ r', (compile o text').outcome = .ok r' → r.Adds name d r' ∧ r.ExtendedBy name r' := by
  obtain ⟨ds, hds, reached, checked⟩ := compile_ok_iff.1 hr
  have hds' := decode_concat h h' hd hds
  refine ⟨(exists_compile_iff hds').trans (reached.fits_iff checked free), ?_⟩
  intro r' hr'
  obtain ⟨_, hds'', reached', -⟩ := compile_ok_iff.1 hr'
  rw [hds'] at hds''
  cases hds''
  obtain ⟨hnew, hadd⟩ := (reached_concat_iff reached free).1 reached'
  exact ⟨hadd, hadd.extendedBy (reached.coherent.isNew hnew)⟩

/-- A component with a notification. -/
def publisherFields : Mapping :=
  [ (.text "interface", .mapping [(.text "notifications", .sequence [.text "N"])]),
    (.text "statemachine",
      .mapping [(.text "states", .sequence [.text "S"]), (.text "start", .text "S")]) ]

/-- A component that subscribes to it. -/
def subscriberFields : Mapping :=
  [ (.text "utilization", .mapping [(.text "notifications", .sequence [.text "A.N"])]),
    (.text "statemachine",
      .mapping [(.text "states", .sequence [.text "S"]), (.text "start", .text "S")]) ]

def publisherText : String :=
  "components:\n- A: \x7binterface: \x7bnotifications: [N]\x7d, " ++
  "statemachine: &m \x7bstates: [S], start: S\x7d\x7d"

def subscriberText : String :=
  publisherText ++ "\n- B: \x7butilization: \x7bnotifications: [A.N]\x7d, statemachine: *m\x7d"

theorem subscriber_extends : ∃ r r', (compile .standard publisherText).outcome = .ok r ∧
    (compile .standard subscriberText).outcome = .ok r' ∧
    Fits r "B" (.definition subscriberFields) ∧ r'.names = ["A", "B"] ∧
    r'.object? "A" = r.object? "A" ∧ r'.subscribers "A" "N" = ["B"] := by
  have entries : componentEntries .standard publisherText =
      .ok [.mapping [(.text "A", .mapping publisherFields)]] := by decide +kernel
  have entries' : componentEntries .standard subscriberText =
      .ok ([.mapping [(.text "A", .mapping publisherFields)]] ++
        [.mapping [(.text "B", .mapping subscriberFields)]]) := by decide +kernel
  have built : (compile .standard publisherText).outcome.toOption.map Registry.names =
      some ["A"] := by
    rw [outcome_compile_of_entries entries]
    decide +kernel
  have built' : (compile .standard subscriberText).outcome.toOption.map
      (fun r => r.subscribers "A" "N") = some ["B"] := by
    rw [outcome_compile_of_entries entries']
    decide +kernel
  obtain ⟨r, hr, names⟩ := exists_ok_of_toOption_map built
  obtain ⟨r', hr', subscribers⟩ := exists_ok_of_toOption_map built'
  obtain ⟨fits, extended⟩ := compile_append entries entries' rfl (by decide) hr
  obtain ⟨-, extended⟩ := extended r' hr'
  have names' : r'.names = ["A", "B"] := by
    rw [extended.names, names]
    rfl
  have kept := extended.objects "A" (by rw [names]; decide)
  exact ⟨r, r', hr, hr', fits.1 ⟨r', hr'⟩, names', kept, subscribers⟩

end ComponentSpec
