import ComponentSpec.Proofs.Closure
import Mathlib.Data.List.Basic
import Mathlib.Data.List.Induction

/-!
# ComponentSpec.Proofs.Checking

The second phase passes over aliases. To check every name instead would find nothing else.

* `checkEach`: the references of bindings, each under its own name.
* `findSome?_filter_of_before`: what can be left out of a search without a change of its result.
* `Reached.definition_before`: an alias comes after the definition whose component it shares.
* `checkReferences_eq_checkEach`: both checks end alike.
-/

namespace ComponentSpec

variable {o : Options} {ds : List (String × ComponentDecl)} {r : Registry}

/-- Checks bindings in order, aliases too. A violation is reported under the name of its binding. -/
def checkEach (r : Registry) : List Binding → Except Diagnostic Unit
  | [] => .ok ()
  | b :: bs =>
    match b.object.component.violation? r b.name with
    | some f => .error (.ofFaultIn b.name f)
    | none => checkEach r bs

theorem checkEach_eq (bs : List Binding) :
    checkEach r bs =
      match bs.findSome? fun b =>
        (b.object.component.violation? r b.name).map (Diagnostic.ofFaultIn b.name) with
      | some d => .error d
      | none => .ok () := by
  induction bs with
  | nil => rfl
  | cons b bs ih =>
    rw [checkEach, List.findSome?_cons]
    cases b.object.component.violation? r b.name with
    | none => exact ih
    | some f => rfl

/-- A search finds the same without items that find something only if an item before them, which is
kept, does so. -/
theorem findSome?_filter_of_before {α β : Type} {keep : α → Bool} {f : α → Option β} {xs : List α}
    (h : ∀ before x after, xs = before ++ x :: after → keep x = false → f x ≠ none →
      ∃ y ∈ before, keep y = true ∧ f y ≠ none) :
    (xs.filter keep).findSome? f = xs.findSome? f := by
  induction xs using List.reverseRecOn with
  | nil => rfl
  | append_singleton xs x ih =>
    have ih := ih fun before y after e => h before y (after ++ [x]) (by rw [e]; simp)
    rw [List.filter_append, List.findSome?_append, List.findSome?_append, ih]
    cases hk : keep x with
    | true => simp [hk]
    | false =>
      have dropped : [x].filter keep = [] := by simp [hk]
      rw [dropped, List.findSome?_nil, Option.or_none]
      cases hx : f x with
      | none => simp [hx]
      | some b =>
        -- an earlier item has ended the search
        obtain ⟨y, hy, -, found⟩ := h xs x [] rfl hk (by simp [hx])
        cases hs : xs.findSome? f with
        | none => exact absurd (List.findSome?_eq_none_iff.1 hs y hy) found
        | some b' => rfl

theorem Reached.definition_before (h : Reached o ds r) {before after : List Binding} {b : Binding}
    (split : r.bindings = before ++ b :: after) (linked : b.root.isNone = false) :
    ∃ d ∈ before, d.root.isNone = true ∧ d.object = b.object := by
  have coherent := h.coherent
  obtain ⟨entry, hroot⟩ := Registry.mem_bindings (r := r) (b := b) (by rw [split]; simp)
  obtain ⟨root, ha⟩ := Option.isSome_iff_exists.1 (by simpa using linked : b.root.isSome = true)
  obtain ⟨⟨names₁, names₂, hnames, hmem⟩, plain, shared⟩ := coherent.target b.name root (hroot ▸ ha)
  have names : r.names = before.map Binding.name ++ b.name :: after.map Binding.name := by
    rw [← List.map_cons, ← List.map_append, ← split]
    simp [Registry.names, NameMap.names, Registry.bindings]
  -- no name is bound twice, so that the two splits are the same
  have nodup : r.names.Nodup := r.components.nodup
  rw [hnames] at nodup names
  obtain ⟨-, later, earlier⟩ := List.nodup_append.1 nodup
  have first : b.name ∉ names₁ := fun hb => earlier _ hb _ List.mem_cons_self rfl
  obtain ⟨rfl, -, -⟩ :=
    (List.append_cons_inj_of_notMem first (List.nodup_cons.1 later).1).1 names
  obtain ⟨d, hd, rfl⟩ := List.mem_map.1 hmem
  obtain ⟨entry', hroot'⟩ := Registry.mem_bindings (r := r) (b := d) (by rw [split]; simp [hd])
  refine ⟨d, hd, by rw [hroot', plain]; rfl, ?_⟩
  have bound : r.object? b.name = some b.object := NameMap.get?_of_mem_entries entry
  have bound' : r.object? d.name = some d.object := NameMap.get?_of_mem_entries entry'
  rw [bound, bound'] at shared
  exact (Option.some.inj shared).symm

/-- The two checks have the same result, for any declarations that can all be added. What is wrong
with a component is reported under the name of its definition, which comes before its aliases. -/
theorem checkReferences_eq_checkEach (h : (assembleAll o .empty ds).outcome = .ok r) :
    checkReferences r = checkEach r r.bindings := by
  have reached : Reached o ds r := reached_iff.2 h
  have same : r.violation? = r.bindings.findSome? fun b =>
      (b.object.component.violation? r b.name).map (Diagnostic.ofFaultIn b.name) := by
    refine findSome?_filter_of_before fun before b after split linked found => ?_
    obtain ⟨d, hd, defined, shared⟩ := reached.definition_before split linked
    refine ⟨d, hd, defined, fun none => found ?_⟩
    rw [Option.map_eq_none_iff, Component.violation?_eq_none_iff] at none ⊢
    rwa [← shared]
  rw [checkEach_eq, ← same]
  rfl

/-- A component with a command that looks like a reference. -/
def dottedFields : Yaml.Mapping :=
  [ (.text "interface", .mapping [(.text "commands", .sequence [.text "Door.Open"])]),
    (.text "statemachine",
      .mapping [(.text "states", .sequence [.text "On"]), (.text "start", .text "On")]) ]

/-- It is declared between others, and has an alias and an alias of that one. -/
def dottedDecls : List (String × ComponentDecl) :=
  [ ("Lamp", .definition plainFields), ("Bell", .uses "Lamp"), ("Gate", .definition dottedFields),
    ("Side", .uses "Gate"), ("Rear", .uses "Side"), ("Door", .definition dottedFields) ]

theorem dotted_checks_agree : ∃ r, (assembleAll .standard .empty dottedDecls).outcome = .ok r ∧
    r.bindings.map Binding.root = [none, some "Lamp", none, some "Gate", some "Gate", none] ∧
    checkEach r r.bindings = .error
      ⟨.invalidLocalName, "command Door.Open of Gate must not contain '.'", some "Gate"⟩ := by
  have built : (assembleAll .standard .empty dottedDecls).outcome.toOption.map
      (fun r => (r.bindings.map Binding.root, r.violation?)) =
      some ([none, some "Lamp", none, some "Gate", some "Gate", none], some
        ⟨.invalidLocalName, "command Door.Open of Gate must not contain '.'", some "Gate"⟩) := by
    decide +kernel
  obtain ⟨r, hr, view⟩ := exists_ok_of_toOption_map built
  obtain ⟨roots, violation⟩ := Prod.mk.inj view
  refine ⟨r, hr, roots, ?_⟩
  rw [← checkReferences_eq_checkEach hr]
  exact checkReferences_eq_error_iff.2 violation

end ComponentSpec
