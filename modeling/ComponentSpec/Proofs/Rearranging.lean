import ComponentSpec.Proofs.Edits
import ComponentSpec.Proofs.Reserved
import Mathlib.Logic.Relation

/-!
# ComponentSpec.Proofs.Rearranging

Ways to write one document: changes below the entries of its components, in the order of the fields
of a mapping, in fields that do not count, and in messages without fields.

* `DocumentEdits`: a change of this kind. In the body of an alias, all beside `using` may be left
  out.
* `outcome_compileTree_of_edits`: the outcome of a compilation stays.
* `ComesToProperty`: what stands before a property of a document is in order.
* `written_alike`: the changes of documents, and the property that is declared without fields.
-/

namespace ComponentSpec

open Yaml (Node Mapping)
open Relation (ReflTransGen)

variable {m m' : Mapping} {v w : Node}

/-! ## Documents -/

/-- Mappings that are related, under the same tags. -/
inductive Remaps (R : Mapping → Mapping → Prop) : Node → Node → Prop
  | mapping {m m' : Mapping} (h : R m m') : Remaps R (.mapping m) (.mapping m')
  | tagged {v w : Node} (tag : String) (h : Remaps R v w) : Remaps R (.tagged tag v) (.tagged tag w)

/-- A change in the body of a component. Next to `using` all other entries may be left out. -/
inductive BodyEdits : Mapping → Mapping → Prop
  | fields {m m' : Mapping} (h : Edits .component (.mapping m) (.mapping m')) : BodyEdits m m'
  | link {m m' : Mapping} (isLink : (m.get? "using").isSome)
      (h : Rearranges (fun e => e.1 ≠ .text "using") m m') : BodyEdits m m'

/-- A change in a mapping from the name of a component to its body. -/
inductive EntryEdits : Mapping → Mapping → Prop
  | body {key v w : Node} (h : Remaps BodyEdits v w) : EntryEdits [(key, v)] [(key, w)]

/-- A change below one of the components that are listed under a key. -/
inductive ListEdits (rootKey : String) : Mapping → Mapping → Prop
  | entry {before after : Mapping} {xs ys : List Node} {v w : Node} (h : Remaps EntryEdits v w) :
    ListEdits rootKey (before ++ (.text rootKey, .sequence (xs ++ v :: ys)) :: after)
      (before ++ (.text rootKey, .sequence (xs ++ w :: ys)) :: after)

/-- A change below the entry of a component in a document. -/
abbrev DocumentEdits (rootKey : String) : Node → Node → Prop := Remaps (ListEdits rootKey)

namespace Remaps

variable {R S : Mapping → Mapping → Prop}

theorem hasDistinctKeys (h : Remaps R v w) (step : ∀ m m', R m m' →
      (Node.mapping m).HasDistinctKeys → (Node.mapping m').HasDistinctKeys)
    (hv : v.HasDistinctKeys) : w.HasDistinctKeys := by
  induction h with
  | mapping h => exact step _ _ h hv
  | tagged tag h ih =>
    cases hv with
    | tagged value => exact .tagged (ih value)

/-- Both are mappings, also under the tags. -/
theorem asMapping? (h : Remaps R v w) (hv : v.HasDistinctKeys) :
    ∃ m m', v.asMapping? = some m ∧ w.asMapping? = some m' ∧ R m m' ∧
      (Node.mapping m).HasDistinctKeys := by
  induction h with
  | @mapping m m' h => exact ⟨m, m', rfl, rfl, h, hv⟩
  | tagged tag h ih =>
    cases hv with
    | tagged value => exact ih value

theorem follows {lax : Prop} (h : Remaps R v w) (hv : v.HasDistinctKeys)
    (step : ∀ m m', R m m' → (Node.mapping m).HasDistinctKeys → S m m') (what : String) :
    Follows lax S (asMapping v what) (asMapping w what) := by
  obtain ⟨m, m', hm, hm', related, distinct⟩ := h.asMapping? hv
  rw [asMapping_ok_iff.2 hm, asMapping_ok_iff.2 hm']
  exact .ok (step m m' related distinct)

end Remaps

theorem BodyEdits.hasDistinctKeys (h : BodyEdits m m') (hm : (Node.mapping m).HasDistinctKeys) :
    (Node.mapping m').HasDistinctKeys := by
  cases h with
  | fields h => exact h.hasDistinctKeys hm
  | link _ h => exact h.hasDistinctKeys hm

theorem EntryEdits.hasDistinctKeys (h : EntryEdits m m') (hm : (Node.mapping m).HasDistinctKeys) :
    (Node.mapping m').HasDistinctKeys := by
  cases h with
  | @body key v w h =>
    have body := h.hasDistinctKeys fun _ _ => BodyEdits.hasDistinctKeys
    exact @hasDistinctKeys_replace [] [] v w body key hm

theorem ListEdits.hasDistinctKeys {rootKey : String} (h : ListEdits rootKey m m')
    (hm : (Node.mapping m).HasDistinctKeys) : (Node.mapping m').HasDistinctKeys := by
  cases h with
  | entry h =>
    exact hasDistinctKeys_replace
      (hasDistinctKeys_replace_item (h.hasDistinctKeys fun _ _ => EntryEdits.hasDistinctKeys)) hm

theorem DocumentEdits.hasDistinctKeys {rootKey : String} (h : DocumentEdits rootKey v w)
    (hv : v.HasDistinctKeys) : w.HasDistinctKeys :=
  Remaps.hasDistinctKeys h (fun _ _ => ListEdits.hasDistinctKeys) hv

theorem BodyEdits.get?_using_eq (h : BodyEdits m m') (distinct : (m.map Prod.fst).Nodup) :
    m'.get? "using" = m.get? "using" := by
  cases h with
  | link _ h => exact h.get?_using_eq distinct fun _ beside => beside rfl
  | fields h =>
    unfold Form.component at h
    cases h with
    | rearrange h =>
      refine h.get?_using_eq distinct ?_
      rintro v (other | ⟨-, other⟩)
      · exact other "using" (by simp [Form.componentKeys]) rfl
      · exact other rfl
    | @field _ _ before after key v w _ h =>
      -- what stands under `using` is plain, and nothing plain is changed
      have other : Node.text key ≠ .text "using" := by
        rintro ⟨⟩
        exact h.ne_plain rfl
      rw [Mapping.get?_append, Mapping.get?_append, Mapping.get?_cons, Mapping.get?_cons,
        if_neg other, if_neg other]

theorem BodyEdits.alike {lax : Prop} (h : BodyEdits m m') (hm : (Node.mapping m).HasDistinctKeys) :
    BodiesAlike lax m m' := by
  have distinct : (m.map Prod.fst).Nodup := by
    cases hm with
    | mapping distinct => exact distinct
  have using? := h.get?_using_eq distinct
  cases hu : m.get? "using" with
  | some v => exact .uses hu (using?.trans hu) (.refl .plain v)
  | none =>
    refine .definition hu (using?.trans hu) ?_
    cases h with
    | fields h =>
      have both : Follows lax _ (.ok m : Checked Mapping) (.ok m') := h.alike hm .invalidDocument ""
      cases both with
      | ok related => exact related
    | link isLink _ =>
      rw [hu] at isLink
      cases isLink

theorem componentEntriesAlike_of_edits {lax : Prop} (h : Remaps EntryEdits v w)
    (hv : v.HasDistinctKeys) : ComponentEntriesAlike lax v w := by
  unfold ComponentEntriesAlike ComponentDecl.readNamed
  refine Follows.andThen (h.follows hv (fun _ _ edits distinct => And.intro edits distinct) _) ?_
  rintro _ _ ⟨@⟨key, v, w, edits⟩, distinct⟩
  have bodies : ∀ what, Follows lax (BodiesAlike lax) (asMapping v what) (asMapping w what) :=
    edits.follows (@hasDistinctKeys_value [] [] v key distinct) fun _ _ => BodyEdits.alike
  refine Follows.andThen (singleEntry_follows key v w _) ?_
  rintro _ _ ⟨name, rfl, rfl⟩
  refine Follows.andThen (ComponentDecl.read_follows name bodies) fun d d' related => ?_
  exact .ok ⟨rfl, related⟩

theorem DocumentEdits.follows {lax : Prop} {rootKey : String} (h : DocumentEdits rootKey v w)
    (hv : v.HasDistinctKeys) :
    Follows lax (List.Forall₂ (ComponentEntriesAlike lax)) (declarationEntries v rootKey)
      (declarationEntries w rootKey) := by
  refine declarationEntries_follows (Remaps.follows h hv ?_ _)
  rintro _ _ @⟨before, after, xs, ys, v, w, edits⟩ distinct
  have entry : v.HasDistinctKeys :=
    hasDistinctKeys_of_mem (hasDistinctKeys_value distinct) (by simp)
  have lists : ComponentListsAlike lax (.sequence (xs ++ v :: ys)) (.sequence (xs ++ w :: ys)) :=
    fun _ => .ok (forall₂_replace .refl (componentEntriesAlike_of_edits edits entry) xs ys)
  exact optionRel_get?_replace (R := fun _ => ComponentListsAlike lax) lists (fun _ => .refl) before
    after rootKey

/-- Changes of the ways to write a document do not change its outcome. -/
theorem outcome_compileTree_of_edits {o : Options} (h : ReflTransGen (DocumentEdits o.rootKey) v w)
    (hv : v.HasDistinctKeys) : (compileTree o v).outcome = (compileTree o w).outcome := by
  have both : (compileTree o v).outcome = (compileTree o w).outcome ∧ w.HasDistinctKeys := by
    induction h with
    | refl => exact ⟨rfl, hv⟩
    | tail _ edit ih =>
      obtain ⟨same, distinct⟩ := ih
      refine ⟨same.trans ?_, edit.hasDistinctKeys distinct⟩
      exact (compileTree_follows o (edit.follows distinct)).eq
  exact both.1

/-! ## Properties without fields -/

theorem Property.read_of_fieldless {key entry : Node} {name : String}
    (hk : scalarText? key = some name) (h : Fieldless key entry) :
    ∃ f, read entry = .error f ∧ f.kind = .invalidPropertySpec := by
  obtain ⟨e, he, -, absent | empty⟩ := h.readAs_eq hk .invalidPropertySpec "property"
  · refine ⟨.propertyWithoutFields e.name, bind_eq_error_iff.2 (.inr ⟨e, he, ?_⟩), rfl⟩
    rw [absent]
  · refine ⟨.propertyWithoutType e.name, bind_eq_error_iff.2 (.inr ⟨e, he, ?_⟩), rfl⟩
    rw [empty]
    rfl

/-- An entry among the properties of an interface, where what stands before it is in order. -/
structure Interface.ComesTo (m : Mapping) (entry : Node) : Prop where
  commands : ∃ ks, readListField Command.read m "commands" "interface" = .ok ks
  notifications : ∃ ns, readListField Notification.read m "notifications" "interface" = .ok ns
  properties : ∃ before after ps,
    m.field? "properties" = some (.sequence (before ++ entry :: after)) ∧
      readAll Property.read before = .ok ps

/-- A property of a component whose name is new and not reserved, where what stands before it in the
document is in order. -/
inductive ComesToProperty (o : Options) (root : Node) (name : String) (entry : Node) : Prop
  | intro {before after : List (String × ComponentDecl)} {fields m : Mapping} {r : Registry}
      {v : Node}
      (decls : (declarations root o.rootKey).outcome =
        .ok (before ++ (name, .definition fields) :: after))
      (reached : Reached o before r) (free : o.isReserved name = false) (new : name ∉ r.names)
      (interface : fields.field? "interface" = some v) (isMapping : v.asMapping? = some m)
      (comes : Interface.ComesTo m entry)

theorem readAll_of_error {α : Type} {read : Node → Checked α} {before after : List Node}
    {entry : Node} {as : List α} {f : Fault} (hb : readAll read before = .ok as)
    (h : read entry = .error f) : readAll read (before ++ entry :: after) = .error f := by
  induction before generalizing as with
  | nil =>
    rw [List.nil_append, readAll, h]
    rfl
  | cons v before ih =>
    obtain ⟨a, ha, hb⟩ := bind_eq_ok_iff.1 hb
    obtain ⟨as, has, -⟩ := bind_eq_ok_iff.1 hb
    rw [List.cons_append, readAll, ha, ih has]
    rfl

theorem Interface.read_of_comesTo {entry : Node} {f : Fault} {key : String} {fields : Mapping}
    (hv : fields.field? key = some v) (hm : v.asMapping? = some m) (h : ComesTo m entry)
    (hf : Property.read entry = .error f) : read (fields.field? key) = .error f := by
  obtain ⟨ks, hks⟩ := h.commands
  obtain ⟨ns, hns⟩ := h.notifications
  obtain ⟨before, after, ps, hp, hb⟩ := h.properties
  have properties : readListField Property.read m "properties" "interface" = .error f := by
    rw [readListField, hp]
    exact readAll_of_error hb hf
  unfold read
  rw [present?_field?, hv]
  refine bind_eq_error_iff.2 (.inr ⟨m, asMapping_ok_iff.2 hm, ?_⟩)
  refine bind_eq_error_iff.2 (.inr ⟨ks, hks, bind_eq_error_iff.2 (.inr ⟨ns, hns, ?_⟩)⟩)
  exact bind_eq_error_iff.2 (.inl properties)

theorem ComesToProperty.outcome {o : Options} {root entry : Node} {name : String} {f : Fault}
    (h : ComesToProperty o root name entry) (hf : Property.read entry = .error f) :
    (compileTree o root).outcome = .error (.ofFaultIn name f) := by
  obtain ⟨decls, reached, free, new, interface, isMapping, comes⟩ := h
  rename_i before after fields m r v
  have built : (Component.build name fields).outcome = .error f := by
    unfold Component.build
    rw [Traced.bind_eq, Traced.outcome_andThen, Traced.outcome_lift,
      Interface.read_of_comesTo interface isMapping comes hf]
    rfl
  have assembled : (assemble r name (.definition fields)).outcome = .error f := by
    rw [assemble, Traced.bind_eq, Traced.outcome_andThen, built]
    rfl
  refine compileTree_of_assembleAll decls ?_
  rw [outcome_assembleAll, foldlM_eq_error_iff]
  refine ⟨before, _, after, r, rfl, reached_iff_foldlM.1 reached, ?_⟩
  exact assembleOne_error_iff.2 ⟨free, f, Registry.add_error_iff.2 (.inr ⟨new, assembled⟩), rfl⟩

/-! ## The whole of it -/

/-- Documents may be written in other ways without another outcome: with the fields of a mapping in
another order, without those that do not count, and with a command, notification or subscription
without fields as a name, as a name with nothing and as a name with an empty mapping. All three are
faults for a property, and what a document fails with if what stands before it is in order. -/
theorem written_alike :
    (∀ o root root', root.HasDistinctKeys → ReflTransGen (DocumentEdits o.rootKey) root root' →
      (compileTree o root).outcome = (compileTree o root').outcome) ∧
    (∀ o text text' root root', loadDocument text = .ok root → loadDocument text' = .ok root' →
      ReflTransGen (DocumentEdits o.rootKey) root root' →
        (compile o text).outcome = (compile o text').outcome) ∧
    ∀ entry key k, scalarText? key = some k → Fieldless key entry →
      ∃ f, Property.read entry = .error f ∧ f.kind = .invalidPropertySpec ∧
        ∀ o root name, ComesToProperty o root name entry →
          (compileTree o root).outcome = .error (.ofFaultIn name f) := by
  refine ⟨fun o root root' distinct edits => outcome_compileTree_of_edits edits distinct, ?_, ?_⟩
  · intro o text text' root root' load load' edits
    rw [outcome_compile_of_load load, outcome_compile_of_load load']
    exact outcome_compileTree_of_edits edits (hasDistinctKeys_of_load load)
  · intro entry key k hk fieldless
    obtain ⟨f, hf, kind⟩ := Property.read_of_fieldless hk fieldless
    exact ⟨f, hf, kind, fun o root name comes => comes.outcome hf⟩

/-- A document of one component. -/
def lampDocument (fields : Mapping) : Node := documentOf [entryOf "Lamp" (.mapping fields)]

/-- An interface with one message. -/
def interfaceEntry (key : String) (message : Node) : Node × Node :=
  (.text "interface", .mapping [(.text key, .sequence [message])])

def notedFields : Mapping :=
  (.text "note", .text "spare") :: plainFields ++ [interfaceEntry "commands" (.text "Stop")]

def sortedFields (stop : Node) : Mapping := interfaceEntry "commands" stop :: plainFields

def machineText : String := "    statemachine:\n      states: [On]\n      start: On\n"

def notedText : String :=
  "components:\n- Lamp:\n    note: spare\n" ++ machineText ++
  "    interface:\n      commands: [Stop]\n"

def sortedText : String :=
  "components:\n- Lamp:\n    interface:\n      commands: [Stop: \x7b\x7d]\n" ++ machineText

/-- The bare name and the empty mapping of one command. -/
def stopName : Node := .text "Stop"

def stopMapping : Node := .mapping [(stopName, .mapping [])]

theorem notedFields_sorted : BodyEdits notedFields (sortedFields stopName) := by
  refine .fields (.rearrange ⟨[(.text "note", .text "spare")], by decide, fun e he => ?_⟩)
  rw [List.mem_singleton.1 he]
  exact .inl (by decide)

theorem sortedFields_emptied : BodyEdits (sortedFields stopName) (sortedFields stopMapping) := by
  have stop : Edits Form.command stopName stopMapping := .fieldless rfl .bare .empty
  have commands : Edits Form.interface (.mapping [(.text "commands", .sequence [stopName])])
      (.mapping [(.text "commands", .sequence [stopMapping])]) :=
    @Edits.field _ _ [] [] "commands" _ _ (by simp) (@Edits.item _ [] [] _ _ stop)
  exact .fields (@Edits.field _ _ [] plainFields "interface" _ _ (by simp [Form.componentKeys])
    commands)

/-- A field that does not count is left out, the others change places and a command gets an empty
mapping. A property that is a bare name is a fault. -/
theorem notedText_sorted :
    (∃ r, (compile .standard notedText).outcome = .ok r ∧
      (compile .standard sortedText).outcome = .ok r) ∧
    ∃ f : Fault, f.kind = .invalidPropertySpec ∧
      (compileTree .standard (lampDocument (interfaceEntry "properties" (.text "Level") ::
        plainFields))).outcome = .error (.ofFaultIn "Lamp" f) := by
  obtain ⟨-, texts, properties⟩ := written_alike
  have changed : ∀ {fields fields'}, BodyEdits fields fields' →
      DocumentEdits "components" (lampDocument fields) (lampDocument fields') := fun h =>
    .mapping (@ListEdits.entry "components" [] [] [] [] _ _ (.mapping (.body (.mapping h))))
  constructor
  · have load : loadDocument notedText = .ok (lampDocument notedFields) := by decide +kernel
    have load' : loadDocument sortedText = .ok (lampDocument (sortedFields stopMapping)) := by
      decide +kernel
    have same := texts .standard _ _ _ _ load load'
      (.tail (.single (changed notedFields_sorted)) (changed sortedFields_emptied))
    have built : (compile .standard notedText).outcome.toOption.map Registry.names =
        some ["Lamp"] := by
      decide +kernel
    obtain ⟨r, hr, -⟩ := exists_ok_of_toOption_map built
    exact ⟨r, hr, same ▸ hr⟩
  · obtain ⟨f, -, kind, fails⟩ := properties (.text "Level") (.text "Level") "Level" rfl .bare
    have comes : Interface.ComesTo [(.text "properties", .sequence [.text "Level"])]
        (.text "Level") := ⟨⟨_, rfl⟩, ⟨_, rfl⟩, [], [], [], rfl, rfl⟩
    exact ⟨f, kind, fails .standard _ "Lamp" (@ComesToProperty.intro .standard _ "Lamp" _ [] [] _ _
      _ _ rfl .start (by decide) (by decide) rfl rfl comes)⟩

end ComponentSpec
