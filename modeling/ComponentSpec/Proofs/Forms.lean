import ComponentSpec.Proofs.Following
import ComponentSpec.Proofs.Phases

/-!
# ComponentSpec.Proofs.Forms

The forms in which the parts of a document are read, and documents that are read alike.

* `Form`: the fields that count in each kind of mapping, and how their values are read.
* `Alike`: a value that may stand in the place of another, as far as the readers of a form can tell.
* `Command.read_follows` and so on: each reader follows itself from a value to one alike. One
  statement for each reader, in the order of the readers.
* `compileTree_follows`: so does a compilation, if the entries of its components are read alike.
-/

namespace ComponentSpec

open Yaml (Node Mapping)

/-! ## Forms -/

/-- How a value is read. A mapping has fields of known keys, each with a form of its own; other keys
do not count. -/
inductive Form where
  /-- A name, a list of names, a literal, a flag or a type. -/
  | plain
  | fields (known : List String) (form : String → Form)
  /-- A name, or a mapping from a name to fields, which can be left out if they are optional. -/
  | entry (optional : Bool) (known : List String) (form : String → Form)
  | items (item : Form)

namespace Form

def command : Form := entry true ["event", "forward"] fun _ => plain

def notification : Form := entry true [] fun _ => plain

def propertyKeys : List String := ["type", "value", "min", "max", "notification", "readonly"]

def property : Form := entry false propertyKeys fun _ => plain

def change : Form := fields ["property", "value"] fun _ => plain

def subscriptionField (key : String) : Form := if key = "change" then change else plain

def subscription : Form := entry true ["event", "action", "change"] subscriptionField

def message (key : String) : Form :=
  if key = "commands" then command
  else if key = "notifications" then notification
  else property

def interface : Form :=
  fields ["commands", "notifications", "properties"] fun key => items (message key)

def utilization : Form := fields ["notifications"] fun _ => items subscription

def transition : Form := fields ["state", "next", "event", "action"] fun _ => plain

def machineField (key : String) : Form := if key = "transitions" then items transition else plain

def machine : Form := fields ["states", "start", "transitions"] machineField

def componentKeys : List String := ["using", "interface", "utilization", "events", "statemachine"]

def componentField (key : String) : Form :=
  if key = "interface" then interface
  else if key = "utilization" then utilization
  else if key = "statemachine" then machine
  else plain

/-- The body of a component. -/
def component : Form := fields componentKeys componentField

end Form

/-! ## Values that are read alike -/

variable {lax : Prop}

/-- No reader of plain values tells the two apart. -/
structure PlainAlike (lax : Prop) (v w : Node) : Prop where
  name : ∀ what, Follows lax Eq (asName v what) (asName w what)
  names : ∀ what, Follows lax Eq (asNames v what) (asNames w what)
  literal : ∀ what, Follows lax Eq (asLiteral v what) (asLiteral w what)
  boolean : ∀ what, Follows lax Eq (asBoolean v what) (asBoolean w what)
  text : v.asText? = w.asText?

/-- Under each known key both have a field or none, and the fields are alike. -/
def FieldsAlike (known : List String) (alike : String → Node → Node → Prop) (m m' : Mapping) :
    Prop :=
  ∀ key ∈ known, Option.Rel (alike key) (m.field? key) (m'.field? key)

/-- Messages of one name and with fields that are alike. Optional fields may be left out instead of
empty. -/
def EntriesAlike (optional : Bool) (alike : Mapping → Mapping → Prop) (e e' : Entry) : Prop :=
  e.name = e'.name ∧
    if optional then alike (e.fields?.getD []) (e'.fields?.getD [])
    else Option.Rel alike e.fields? e'.fields?

/-- The second value is read like the first one. What is lax need not fail where the first one
does. -/
def Alike (lax : Prop) : Form → Node → Node → Prop
  | .plain, v, w => PlainAlike lax v w
  | .fields known form, v, w => ∀ kind what,
    Follows lax (FieldsAlike known fun key => Alike lax (form key)) (asMappingOr kind v what)
      (asMappingOr kind w what)
  | .entry optional known form, v, w => ∀ kind what,
    Follows lax (EntriesAlike optional (FieldsAlike known fun key => Alike lax (form key)))
      (Entry.readAs kind v what) (Entry.readAs kind w what)
  | .items item, v, w => ∀ what,
    Follows lax (List.Forall₂ (Alike lax item)) (asSequence v what) (asSequence w what)

theorem PlainAlike.refl (v : Node) : PlainAlike lax v v where
  name _ := .of_eq rfl
  names _ := .of_eq rfl
  literal _ := .of_eq rfl
  boolean _ := .of_eq rfl
  text := rfl

theorem FieldsAlike.refl {known : List String} {alike : String → Node → Node → Prop}
    (h : ∀ key v, alike key v v) (m : Mapping) : FieldsAlike known alike m m :=
  fun key _ => optionRel_refl (h key) _

theorem EntriesAlike.refl {alike : Mapping → Mapping → Prop} (h : ∀ m, alike m m)
    (optional : Bool) (e : Entry) : EntriesAlike optional alike e e := by
  refine ⟨rfl, ?_⟩
  cases optional with
  | true => exact h _
  | false => exact optionRel_refl h _

theorem EntriesAlike.named {alike : Mapping → Mapping → Prop} {fields fields' : Option Mapping}
    (empty : alike [] []) (h : Option.Rel alike fields fields') (optional : Bool) (name : String) :
    EntriesAlike optional alike (.named name fields) (.named name fields') := by
  refine ⟨rfl, ?_⟩
  cases optional with
  | false => exact h
  | true =>
    cases h with
    | none => exact empty
    | some related => exact related

theorem Alike.refl (f : Form) (v : Node) : Alike lax f v v := by
  induction f generalizing v with
  | plain => exact PlainAlike.refl v
  | fields known form ih => exact fun _ _ => .refl (FieldsAlike.refl ih) _
  | entry optional known form ih => exact fun _ _ => .refl (EntriesAlike.refl (.refl ih) optional) _
  | items item ih => exact fun _ => .refl (fun vs => List.forall₂_same.2 fun v _ => ih v) _

/-- No reader of a form takes tagged values for different ones if it does not without the tag. -/
theorem Alike.tagged {f : Form} {v w : Node} (h : Alike lax f v w) (tag : String) :
    Alike lax f (.tagged tag v) (.tagged tag w) := by
  cases f with
  | plain =>
    exact ⟨fun _ => .error _, fun _ => .error _, fun _ => .error _, fun _ => .error _, h.text⟩
  | fields known form =>
    intro kind what
    have untagged := h kind what
    simp only [asMappingOr, Node.asMapping?] at untagged ⊢
    generalize v.asMapping? = a at untagged ⊢
    generalize w.asMapping? = b at untagged ⊢
    cases a with
    | some m => cases b with
      | some m' => exact untagged
      | none => cases untagged
    | none => cases b with
      | some m' =>
        cases untagged with
        | lenient h => exact .lenient h _ _
      | none => exact .error _
  | entry optional known form => exact fun _ _ => .error _
  | items item => exact fun _ => .error _

/-! ## Fields -/

section Fields

variable {α : Type} {T : Node → Node → Prop} {m m' : Mapping} {key : String}

theorem optionalField_follows {read : Node → String → Checked α}
    (h : ∀ {v w}, T v w → ∀ what, Follows lax Eq (read v what) (read w what))
    (field : Option.Rel T (m.field? key) (m'.field? key)) (what : String) :
    Follows lax Eq (optionalField read m key what) (optionalField read m' key what) := by
  unfold optionalField
  refine optionRel_elim field (.ok rfl) fun v w related => ?_
  exact (h related _).map fun _ _ => congrArg some

theorem requiredField_follows (field : Option.Rel T (m.field? key) (m'.field? key))
    (what : String) : Follows lax T (requiredField m key what) (requiredField m' key what) := by
  unfold requiredField
  exact optionRel_elim field (.error _) fun v w related => .ok related

theorem readListField_follows {read : Node → Checked α} {item : Form}
    (h : ∀ v w, Alike lax item v w → Follows lax Eq (read v) (read w))
    (field : Option.Rel (Alike lax (.items item)) (m.field? key) (m'.field? key)) (what : String) :
    Follows lax Eq (readListField read m key what) (readListField read m' key what) := by
  unfold readListField
  refine optionRel_elim field (.ok rfl) fun v w related => ?_
  exact (related _).bind fun vs ws items => readAll_follows_eq h items

variable (field : Option.Rel (Alike lax .plain) (m.field? key) (m'.field? key)) (what : String)

include field

theorem optionalName_follows :
    Follows lax Eq (optionalName m key what) (optionalName m' key what) :=
  optionalField_follows (T := Alike lax .plain) (fun h => h.name) field what

theorem optionalLiteral_follows :
    Follows lax Eq (optionalLiteral m key what) (optionalLiteral m' key what) :=
  optionalField_follows (T := Alike lax .plain) (fun h => h.literal) field what

theorem optionalBoolean_follows :
    Follows lax Eq (optionalBoolean m key what) (optionalBoolean m' key what) :=
  optionalField_follows (T := Alike lax .plain) (fun h => h.boolean) field what

end Fields

/-! ## Messages -/

variable {v w : Node}

theorem Command.readFields_follows {m m' : Mapping}
    (h : FieldsAlike ["event", "forward"] (fun _ => Alike lax .plain) m m') (name : String) :
    Follows lax Eq (readFields name m) (readFields name m') := by
  unfold readFields
  refine (optionalName_follows (h "event" (by simp)) _).bind ?_
  rintro event _ rfl
  refine (optionalName_follows (h "forward" (by simp)) _).bind ?_
  rintro forward _ rfl
  exact .of_eq rfl

/-- A command without fields is one with empty fields. -/
theorem Command.read_eq (v : Node) :
    read v = Entry.read v "command" >>= fun e => readFields e.name (e.fields?.getD []) := by
  unfold read
  refine bind_congr fun e => ?_
  cases e.fields? with
  | none => rfl
  | some fields => rfl

theorem Command.read_follows (h : Alike lax .command v w) :
    Follows lax Eq (read v) (read w) := by
  rw [read_eq, read_eq]
  refine (h .invalidDocument "command").bind ?_
  rintro e e' ⟨name, fields⟩
  rw [name]
  exact readFields_follows fields _

theorem Notification.read_follows (h : Alike lax .notification v w) :
    Follows lax Eq (read v) (read w) :=
  (h .invalidDocument "notification").map fun _ _ ⟨name, _⟩ => congrArg Notification.mk name

namespace Property

open Form (propertyKeys)

variable {m m' : Mapping} (h : FieldsAlike propertyKeys (fun _ => Alike lax .plain) m m')
  (name : String)

include h

theorem readDeclaredType_follows :
    Follows lax Eq (readDeclaredType name m) (readDeclaredType name m') := by
  unfold readDeclaredType
  have type := h "type" (by simp [propertyKeys])
  refine optionRel_elim type (.error _) fun v w related => ?_
  have text : v.asText? = w.asText? := related.text
  exact .of_eq (by simp only [text])

theorem readFields_follows : Follows lax Eq (readFields name m) (readFields name m') := by
  unfold readFields
  refine (readDeclaredType_follows h name).bind ?_
  rintro type _ rfl
  refine (optionalLiteral_follows (h "value" (by simp [propertyKeys])) _).bind ?_
  rintro value _ rfl
  refine (optionalLiteral_follows (h "min" (by simp [propertyKeys])) _).bind ?_
  rintro min _ rfl
  refine (optionalLiteral_follows (h "max" (by simp [propertyKeys])) _).bind ?_
  rintro max _ rfl
  refine (optionalName_follows (h "notification" (by simp [propertyKeys])) _).bind ?_
  rintro notification _ rfl
  refine (optionalBoolean_follows (h "readonly" (by simp [propertyKeys])) _).bind ?_
  rintro readonly _ rfl
  exact .ok rfl

end Property

theorem Property.read_follows (h : Alike lax .property v w) :
    Follows lax Eq (read v) (read w) := by
  unfold read
  refine (h .invalidPropertySpec "property").bind ?_
  rintro e e' ⟨name, fields⟩
  rw [name]
  replace fields : Option.Rel (FieldsAlike Form.propertyKeys fun _ => Alike lax .plain) e.fields?
    e'.fields? := fields
  exact optionRel_elim fields (.error _) fun m m' related => readFields_follows related _

theorem PropertyChange.read_follows (h : Alike lax .change v w) (what : String) :
    Follows lax Eq (read v what) (read w what) := by
  unfold read
  refine (h .invalidDocument what).bind fun m m' fields => ?_
  refine (requiredField_follows (fields "property" (by simp)) what).bind fun x y property => ?_
  refine (property.name what).bind ?_
  rintro name _ rfl
  refine (requiredField_follows (fields "value" (by simp)) what).bind fun x y value => ?_
  refine (value.literal what).bind ?_
  rintro literal _ rfl
  exact .ok rfl

namespace Subscription

theorem readFields_follows {m m' : Mapping} (h : FieldsAlike ["event", "action", "change"]
    (fun key => Alike lax (Form.subscriptionField key)) m m') (name : String) :
    Follows lax Eq (readFields name m) (readFields name m') := by
  unfold readFields
  refine (optionalName_follows (h "event" (by simp)) _).bind ?_
  rintro event _ rfl
  refine (optionalName_follows (h "action" (by simp)) _).bind ?_
  rintro action _ rfl
  refine (optionalField_follows (T := Alike lax .change) PropertyChange.read_follows
    (h "change" (by simp)) _).bind ?_
  rintro change _ rfl
  exact .ok rfl

/-- A subscription without fields is one with empty fields. -/
theorem read_eq (v : Node) :
    read v = Entry.read v "subscribed notification" >>= fun e =>
      readFields e.name (e.fields?.getD []) := by
  unfold read
  refine bind_congr fun e => ?_
  cases e.fields? with
  | none => rfl
  | some fields => rfl

theorem read_follows (h : Alike lax .subscription v w) :
    Follows lax Eq (read v) (read w) := by
  rw [read_eq, read_eq]
  refine (h .invalidDocument "subscribed notification").bind ?_
  rintro e e' ⟨name, fields⟩
  rw [name]
  exact readFields_follows fields _

end Subscription

/-! ## Sections -/

section Sections

variable {m m' : Mapping} {key : String}

theorem present?_field? (m : Mapping) (key : String) : present? (m.field? key) = m.field? key := by
  rw [present?, Mapping.field?, Option.filter_filter]
  simp

theorem Interface.read_follows
    (field : Option.Rel (Alike lax .interface) (m.field? key) (m'.field? key)) :
    Follows lax Eq (read (m.field? key)) (read (m'.field? key)) := by
  unfold read
  rw [present?_field?, present?_field?]
  refine optionRel_elim field (.ok rfl) fun v w related => ?_
  refine (related .invalidDocument "interface").bind fun m m' fields => ?_
  refine (readListField_follows (fun _ _ => Command.read_follows) (fields "commands" (by simp))
    _).bind ?_
  rintro commands _ rfl
  refine (readListField_follows (fun _ _ => Notification.read_follows)
    (fields "notifications" (by simp)) _).bind ?_
  rintro notifications _ rfl
  refine (readListField_follows (fun _ _ => Property.read_follows)
    (fields "properties" (by simp)) _).bind ?_
  rintro properties _ rfl
  exact .ok rfl

theorem readUtilization_follows
    (field : Option.Rel (Alike lax .utilization) (m.field? key) (m'.field? key)) :
    Follows lax Eq (readUtilization (m.field? key)) (readUtilization (m'.field? key)) := by
  unfold readUtilization
  rw [present?_field?, present?_field?]
  refine optionRel_elim field (.ok rfl) fun v w related => ?_
  refine (related .invalidDocument "utilization").bind fun m m' fields => ?_
  exact readListField_follows (fun _ _ => Subscription.read_follows)
    (fields "notifications" (by simp)) _

end Sections

/-! ## State machines -/

namespace TransitionDecl

theorem read_follows (place : Nat) (h : Alike lax .transition v w) :
    Follows lax Eq (read place v) (read place w) := by
  unfold read
  refine (h .invalidDocument _).bind fun m m' fields => ?_
  have name : ∀ key ∈ ["state", "next", "event", "action"], ∀ what, Follows lax Eq
      (do asName (← requiredField m key what) (fieldOf key what))
      (do asName (← requiredField m' key what) (fieldOf key what)) := fun key hk what =>
    (requiredField_follows (fields key hk) what).bind fun x y plain => plain.name _
  refine (name "state" (by simp) _).bind ?_
  rintro pattern _ rfl
  refine (name "next" (by simp) _).bind ?_
  rintro next _ rfl
  refine (name "event" (by simp) _).bind ?_
  rintro event _ rfl
  refine (optionalName_follows (fields "action" (by simp)) _).bind ?_
  rintro action _ rfl
  exact .ok rfl

theorem readFrom_follows {vs ws : List Node} (items : List.Forall₂ (Alike lax .transition) vs ws)
    (place : Nat) : Follows lax Eq (readFrom place vs) (readFrom place ws) := by
  induction items generalizing place with
  | nil => exact .ok rfl
  | cons head _ ih =>
    rw [readFrom, readFrom]
    refine (read_follows place head).bind ?_
    rintro d _ rfl
    refine (ih (place + 1)).bind ?_
    rintro ds _ rfl
    exact .ok rfl

theorem readList_follows {list? list?' : Option Node}
    (field : Option.Rel (Alike lax (.items .transition)) list? list?') :
    Follows lax Eq (readList list?) (readList list?') := by
  cases field with
  | none => exact .ok rfl
  | some related => exact (related _).bind fun vs ws items => readFrom_follows items 0

end TransitionDecl

/-! ## Components -/

section Components

variable {m m' : Mapping}
  (h : FieldsAlike Form.componentKeys (fun key => Alike lax (Form.componentField key)) m m')

include h

theorem readEvents_follows : Follows lax Eq (readEvents m).outcome (readEvents m').outcome := by
  have field : Option.Rel (Alike lax .plain) (m.field? "events") (m'.field? "events") :=
    h "events" (by simp [Form.componentKeys])
  unfold readEvents
  refine optionRel_elim field (.ok rfl) fun v w related => ?_
  refine Follows.andThen (related.names _) ?_
  rintro names _ rfl
  exact .of_eq rfl

theorem readStateMachine_follows (events : NameSet) :
    Follows lax Eq (readStateMachine events m).outcome (readStateMachine events m').outcome := by
  unfold readStateMachine
  refine Follows.andThen (requiredField_follows (h "statemachine" (by simp [Form.componentKeys]))
    _) fun body body' machine => ?_
  refine Follows.andThen (machine .invalidDocument _) fun m m' fields => ?_
  refine Follows.andThen (requiredField_follows (fields "states" (by simp)) _) fun v w plain => ?_
  refine Follows.andThen (plain.names _) ?_
  rintro states _ rfl
  refine Follows.andThen (requiredField_follows (fields "start" (by simp)) _) fun v w plain => ?_
  refine Follows.andThen (plain.name _) ?_
  rintro start _ rfl
  refine Follows.andThen (TransitionDecl.readList_follows (fields "transitions" (by simp))) ?_
  rintro transitions _ rfl
  exact .of_eq rfl

theorem Component.build_follows (name : String) :
    Follows lax Eq (build name m).outcome (build name m').outcome := by
  unfold build
  refine Follows.andThen (Interface.read_follows (h "interface" (by simp [Form.componentKeys]))) ?_
  rintro interface _ rfl
  refine Follows.andThen
    (readUtilization_follows (h "utilization" (by simp [Form.componentKeys]))) ?_
  rintro subscriptions _ rfl
  refine Follows.andThen (readEvents_follows h) ?_
  rintro events _ rfl
  refine Follows.andThen (readStateMachine_follows h events) ?_
  rintro machine _ rfl
  exact .of_eq rfl

end Components

/-! ## Declarations -/

/-- Declarations that link to one target, or whose definitions are read alike. -/
inductive ComponentDecl.Alike (lax : Prop) : ComponentDecl → ComponentDecl → Prop
  | uses (target : String) : Alike lax (.uses target) (.uses target)
  | definition {m m' : Mapping} (h : FieldsAlike Form.componentKeys
      (fun key => ComponentSpec.Alike lax (Form.componentField key)) m m') :
    Alike lax (.definition m) (.definition m')

/-- The bodies of two links, or of two definitions. What is null counts under `using` alone, and
next to it nothing else does. -/
inductive BodiesAlike (lax : Prop) (m m' : Mapping) : Prop
  | uses {v w : Node} (hv : m.get? "using" = some v) (hw : m'.get? "using" = some w)
    (target : Alike lax .plain v w)
  | definition (hm : m.get? "using" = none) (hm' : m'.get? "using" = none)
    (fields : FieldsAlike Form.componentKeys (fun key => Alike lax (Form.componentField key)) m m')

theorem ComponentDecl.read_follows {body body' : Node} (name : String)
    (h : ∀ what, Follows lax (BodiesAlike lax) (asMapping body what) (asMapping body' what)) :
    Follows lax (ComponentDecl.Alike lax) (read name body).outcome (read name body').outcome := by
  unfold read
  refine Follows.andThen (h _) fun m m' bodies => ?_
  cases bodies with
  | uses hv hw target =>
    simp only [hv, hw]
    refine Follows.andThen (target.name _) ?_
    rintro name _ rfl
    -- what is reported of other fields is no part of the outcome
    split <;> split <;> exact .ok (.uses name)
  | definition hm hm' fields =>
    simp only [hm, hm']
    rw [isNone_eq_of_optionRel (fields "statemachine" (by simp [Form.componentKeys]))]
    split
    · exact .error _
    · exact .ok (.definition fields)

/-- Declarations under one name that are read alike. -/
abbrev NamedAlike (lax : Prop) (d d' : String × ComponentDecl) : Prop :=
  d.1 = d'.1 ∧ d.2.Alike lax d'.2

/-- A component entry is read like another one. -/
def ComponentEntriesAlike (lax : Prop) (entry entry' : Node) : Prop :=
  Follows lax (NamedAlike lax) (ComponentDecl.readNamed entry).outcome
    (ComponentDecl.readNamed entry').outcome

theorem ComponentEntriesAlike.refl (entry : Node) : ComponentEntriesAlike lax entry entry := by
  refine Follows.refl (fun d => ⟨rfl, ?_⟩) _
  cases d.2 with
  | uses target => exact .uses target
  | definition fields =>
    exact .definition (.refl (fun key => .refl (Form.componentField key)) fields)

/-- A list of component entries is read like another one. -/
def ComponentListsAlike (lax : Prop) (list list' : Node) : Prop := ∀ what,
  Follows lax (List.Forall₂ (ComponentEntriesAlike lax)) (asSequence list what)
    (asSequence list' what)

theorem ComponentListsAlike.refl (list : Node) : ComponentListsAlike lax list list :=
  fun _ => .refl (fun _ => List.forall₂_same.2 fun entry _ => .refl entry) _

theorem declarationEntries_follows {root root' : Node} {rootKey : String}
    (h : Follows lax (fun m m' => Option.Rel (ComponentListsAlike lax) (Mapping.get? m rootKey)
      (Mapping.get? m' rootKey)) (asMapping root "document") (asMapping root' "document")) :
    Follows lax (List.Forall₂ (ComponentEntriesAlike lax)) (declarationEntries root rootKey)
      (declarationEntries root' rootKey) := by
  refine h.bind fun m m' list => ?_
  exact optionRel_elim list (.error _) fun list list' related => related _

theorem ComponentDecl.readAll_follows {entries entries' : List Node}
    (items : List.Forall₂ (ComponentEntriesAlike lax) entries entries') :
    Follows lax (List.Forall₂ (NamedAlike lax)) (readAll entries).outcome
      (readAll entries').outcome := by
  induction items with
  | nil => exact .ok .nil
  | cons head _ ih =>
    rw [outcome_readAll_cons, outcome_readAll_cons]
    exact head.bind fun d d' first => ih.bind fun ds ds' rest => .ok (.cons first rest)

/-! ## Compilation -/

theorem assemble_follows (r : Registry) (name : String) {d d' : ComponentDecl}
    (h : d.Alike lax d') :
    Follows lax Eq (assemble r name d).outcome (assemble r name d').outcome := by
  cases h with
  | uses target => exact .of_eq rfl
  | definition fields =>
    refine Follows.andThen (Component.build_follows fields name) ?_
    rintro c _ rfl
    exact .ok rfl

theorem Registry.add_follows (r : Registry) (name : String) {d d' : ComponentDecl}
    (h : d.Alike lax d') : Follows lax Eq (r.add name d).outcome (r.add name d').outcome := by
  unfold add
  split
  · exact .error _
  · refine Follows.andThen (.of_eq rfl) fun _ _ _ => ?_
    refine Follows.andThen (assemble_follows r name h) ?_
    rintro assembled _ rfl
    exact .of_eq rfl

theorem assembleOne_follows_alike (o : Options) (r : Registry) (d d' : String × ComponentDecl)
    (h : NamedAlike lax d d') : Follows lax Eq (assembleOne o r d) (assembleOne o r d') := by
  obtain ⟨name, alike⟩ := h
  unfold assembleOne
  rw [name]
  split
  · exact .ok rfl
  · exact (Registry.add_follows r d'.1 alike).mapError _

theorem compileTree_follows (o : Options) {root root' : Node}
    (h : Follows lax (List.Forall₂ (ComponentEntriesAlike lax)) (declarationEntries root o.rootKey)
      (declarationEntries root' o.rootKey)) :
    Follows lax Eq (compileTree o root).outcome (compileTree o root').outcome := by
  have decoded : Follows lax (List.Forall₂ (NamedAlike lax))
      (declarations root o.rootKey).outcome (declarations root' o.rootKey).outcome := by
    rw [outcome_declarations, outcome_declarations]
    exact h.bind fun _ _ => ComponentDecl.readAll_follows
  rw [outcome_compileTree, outcome_compileTree]
  refine (decoded.mapError Diagnostic.ofFault).bind fun ds ds' items => ?_
  rw [outcome_assembleAll, outcome_assembleAll]
  refine (foldlM_follows_forall₂ (assembleOne_follows_alike o) items .empty).bind ?_
  rintro r _ rfl
  exact .refl (fun _ => rfl) _

end ComponentSpec
