import ComponentSpec.Proofs.Resolution
import Mathlib.Data.List.Perm.Basic

/-!
# ComponentSpec.Proofs.Order

Documents that declare the same components in different orders. Links must go back in both; nothing
else depends on the order but the order of the names.

* `Buildable.perm`: the first phase goes through in both orders.
* `Reached.component?_congr`, `Reached.aliasTarget?_congr`: what names are bound to is decided by
  the declarations, whatever their order.
* `compile_perm`: one document compiles exactly if the other does, and to the same components.
-/

namespace ComponentSpec

open Yaml (Node)

variable {o : Options} {ds ds' : List (String × ComponentDecl)} {r r' : Registry}

/-! ## Decoding -/

theorem readAll_perm {entries entries' : List Node} (perm : entries.Perm entries')
    (h : (ComponentDecl.readAll entries).outcome = .ok ds) :
    ∃ ds', (ComponentDecl.readAll entries').outcome = .ok ds' ∧ ds.Perm ds' := by
  cases h' : (ComponentDecl.readAll entries').outcome with
  | error f =>
    -- an entry that cannot be read is one of the first list, too
    obtain ⟨entry, hentry, fails⟩ := ComponentDecl.readAll_fails_iff.1 ⟨f, h'⟩
    obtain ⟨f, hf⟩ := ComponentDecl.readAll_fails_iff.2 ⟨entry, perm.mem_iff.2 hentry, fails⟩
    rw [h] at hf
    cases hf
  | ok ds' =>
    have read := perm.map fun entry => (ComponentDecl.readNamed entry).outcome
    rw [ComponentDecl.readAll_ok_iff.1 h, ComponentDecl.readAll_ok_iff.1 h'] at read
    exact ⟨ds', rfl, (List.map_perm_map_iff fun _ _ => Except.ok.inj).1 read⟩

theorem decode_perm {text text' : String} {entries entries' : List Node}
    (h : componentEntries o text = .ok entries) (h' : componentEntries o text' = .ok entries')
    (perm : entries.Perm entries') (hds : decode o text = .ok ds) :
    ∃ ds', decode o text' = .ok ds' ∧ ds.Perm ds' := by
  rw [decode_of_entries h] at hds
  rw [decode_of_entries h']
  exact readAll_perm perm hds

/-! ## The first phase -/

theorem Buildable.perm (h : Buildable o ds) (perm : ds.Perm ds') (back : LinksBack o ds') :
    Buildable o ds' where
  distinct := ((perm.map Prod.fst).filter _).nodup_iff.1 h.distinct
  built := fun name fields hd => h.built name fields (perm.mem_iff.2 hd)
  back := back

section Same

variable (same : ∀ d, d ∈ ds ↔ d ∈ ds')

include same

theorem Reached.mem_names_congr (h : Reached o ds r) (h' : Reached o ds' r') (name : String) :
    name ∈ r.names ↔ name ∈ r'.names := by
  rw [h.names, h'.names, mem_boundNames, mem_boundNames]
  simp only [same]

theorem Reached.rootOf_congr (h : Reached o ds r) (h' : Reached o ds' r') {name : String}
    (hm : name ∈ r.names) : r.rootOf name = r'.rootOf name := by
  obtain ⟨root, hl⟩ := h.coherent.leads name hm
  have hm' := (h.mem_names_congr same h' name).1 hm
  have hl' : LeadsTo ds' name root := hl.mono fun d => (same d).1
  rw [h.coherent.rootOf_of_leadsTo hl hm, h'.coherent.rootOf_of_leadsTo hl' hm']

theorem Reached.component?_congr (h : Reached o ds r) (h' : Reached o ds' r') (name : String) :
    r.component? name = r'.component? name := by
  have names := h.mem_names_congr same h' name
  by_cases hm : name ∈ r.names
  · obtain ⟨root, hl⟩ := h.coherent.leads name hm
    obtain ⟨fields, hd⟩ := hl.defined
    obtain ⟨c, hc, bound⟩ := h.component?_of_leadsTo hm hl hd
    have hl' : LeadsTo ds' name root := hl.mono fun d => (same d).1
    obtain ⟨c', hc', bound'⟩ := h'.component?_of_leadsTo (names.1 hm) hl' ((same _).1 hd)
    rw [hc] at hc'
    cases hc'
    rw [bound, bound']
  · rw [Registry.component?_eq_none hm, Registry.component?_eq_none (mt names.2 hm)]

theorem Reached.aliasTarget?_congr (h : Reached o ds r) (h' : Reached o ds' r') (name : String) :
    r.aliasTarget? name = r'.aliasTarget? name := by
  have names := h.mem_names_congr same h' name
  by_cases hm : name ∈ r.names
  · rw [h.coherent.aliasTarget?_eq, h'.coherent.aliasTarget?_eq, h.rootOf_congr same h' hm]
  · rw [h.coherent.aliasTarget?_eq_none hm, h'.coherent.aliasTarget?_eq_none (mt names.2 hm)]

end Same

/-! ## Both phases -/

/-- If the declarations of a text go through both phases, so do those of another order. -/
theorem exists_compile_of_perm {text text' : String} {entries entries' : List Node}
    (h : componentEntries o text = .ok entries) (h' : componentEntries o text' = .ok entries')
    (perm : entries.Perm entries') (back : ∀ ds, decode o text' = .ok ds → LinksBack o ds)
    (compiles : ∃ r, (compile o text).outcome = .ok r) :
    ∃ r, (compile o text').outcome = .ok r := by
  obtain ⟨r, hr⟩ := compiles
  obtain ⟨ds, hds, reached, checked⟩ := compile_ok_iff.1 hr
  obtain ⟨ds', hds', declared⟩ := decode_perm h h' perm hds
  obtain ⟨r', reached'⟩ := exists_reached_iff.2 (reached.buildable.perm declared (back ds' hds'))
  have same := reached.component?_congr (fun _ => declared.mem_iff) reached'
  exact ⟨r', compile_ok_iff.2
    ⟨ds', hds', reached', (reached.violation?_congr reached' same).1 checked⟩⟩

/-- Two documents with the same entries in different orders, in both of which links go back, compile
or fail together. They give the same names the same components and the same targets, each in its own
order of declaration. -/
theorem compile_perm {text text' : String} {entries entries' : List Node}
    (h : componentEntries o text = .ok entries) (h' : componentEntries o text' = .ok entries')
    (perm : entries.Perm entries') (back : ∀ ds, decode o text = .ok ds → LinksBack o ds)
    (back' : ∀ ds, decode o text' = .ok ds → LinksBack o ds) :
    ((∃ r, (compile o text).outcome = .ok r) ↔ ∃ r, (compile o text').outcome = .ok r) ∧
    ∀ r r', (compile o text).outcome = .ok r → (compile o text').outcome = .ok r' →
      (∀ name, r.component? name = r'.component? name) ∧
      (∀ name, r.aliasTarget? name = r'.aliasTarget? name) ∧
      (∃ ds, decode o text = .ok ds ∧ r.names = boundNames o ds ∧ r.names.Nodup) ∧
      ∃ ds, decode o text' = .ok ds ∧ r'.names = boundNames o ds ∧ r'.names.Nodup := by
  refine ⟨⟨exists_compile_of_perm h h' perm back', exists_compile_of_perm h' h perm.symm back⟩, ?_⟩
  intro r r' hr hr'
  obtain ⟨ds, hds, reached, -⟩ := compile_ok_iff.1 hr
  obtain ⟨ds', hds', reached', -⟩ := compile_ok_iff.1 hr'
  obtain ⟨_, hds'', declared⟩ := decode_perm h h' perm hds
  rw [hds'] at hds''
  cases hds''
  have same : ∀ d, d ∈ ds ↔ d ∈ ds' := fun _ => declared.mem_iff
  exact ⟨reached.component?_congr same reached', reached.aliasTarget?_congr same reached',
    ⟨ds, hds, reached.names, r.components.nodup⟩, ⟨ds', hds', reached'.names, r'.components.nodup⟩⟩

/-- A definition that subscribes to itself under the name `B`. -/
def selfEntry (name : String) : Node :=
  .mapping [(.text name, .mapping
    [ (.text "interface", .mapping [(.text "notifications", .sequence [.text "N"])]),
      (.text "utilization", .mapping [(.text "notifications", .sequence [.text "B.N"])]),
      (.text "statemachine",
        .mapping [(.text "states", .sequence [.text "S"]), (.text "start", .text "S")]) ])]

/-- Two equal definitions with an alias of the first one between them. -/
def linkSecondText : String :=
  "components:\n- A: &x\n   interface: \x7bnotifications: [N]\x7d\n" ++
  "   utilization: \x7bnotifications: [B.N]\x7d\n" ++
  "   statemachine: \x7bstates: [S], start: S\x7d\n- B: \x7busing: A\x7d\n- C: *x"

def linkLastText : String :=
  "components:\n- C: &x\n   interface: \x7bnotifications: [N]\x7d\n" ++
  "   utilization: \x7bnotifications: [B.N]\x7d\n" ++
  "   statemachine: \x7bstates: [S], start: S\x7d\n- A: *x\n- B: \x7busing: A\x7d"

theorem link_last_same_components : ∃ r r',
    (compile .standard linkSecondText).outcome = .ok r ∧
    (compile .standard linkLastText).outcome = .ok r' ∧
    r.names = ["A", "B", "C"] ∧ r'.names = ["C", "A", "B"] ∧
    (∀ name, r.component? name = r'.component? name) ∧ r'.aliasTarget? "B" = some "A" := by
  have entries : componentEntries .standard linkSecondText =
      .ok [selfEntry "A", linkEntry "B" "A", selfEntry "C"] := by decide +kernel
  have entries' : componentEntries .standard linkLastText =
      .ok [selfEntry "C", selfEntry "A", linkEntry "B" "A"] := by decide +kernel
  have built : (compile .standard linkSecondText).outcome.toOption.map
      (fun r => (r.names, r.aliasTarget? "B")) = some (["A", "B", "C"], some "A") := by
    rw [outcome_compile_of_entries entries]
    decide +kernel
  have built' : (compile .standard linkLastText).outcome.toOption.map Registry.names =
      some ["C", "A", "B"] := by
    rw [outcome_compile_of_entries entries']
    decide +kernel
  obtain ⟨r, hr, view⟩ := exists_ok_of_toOption_map built
  obtain ⟨r', hr', names'⟩ := exists_ok_of_toOption_map built'
  obtain ⟨names, target⟩ := Prod.mk.inj view
  have perm : [selfEntry "A", linkEntry "B" "A", selfEntry "C"].Perm
      [selfEntry "C", selfEntry "A", linkEntry "B" "A"] :=
    @List.perm_append_comm _ [selfEntry "A", linkEntry "B" "A"] [selfEntry "C"]
  obtain ⟨-, same⟩ := compile_perm entries entries' perm (fun _ => linksBack_of_compile hr)
    fun _ => linksBack_of_compile hr'
  obtain ⟨components, targets, -, -⟩ := same r r' hr hr'
  exact ⟨r, r', hr, hr', names, names', components, by rw [← targets, target]⟩

end ComponentSpec
