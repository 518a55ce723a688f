import ApiScribe.Proofs.Generate.Files
import ApiScribe.Proofs.Plan.Storage

/-!
# Read-only properties

The value of a read-only property is set by the class itself and by nobody else. Two languages write
the accessors of a property into its declaration, so that there the declaration has to say this.

A declaration is told by its parts: in C# by its accessors, each with a keyword, a body and whether
it is private, and in TypeScript by its members, which are a field or a getter with or without a
setter. `property_eq` says how the parts are put onto the page in either language.

In TypeScript a read-only property has no setter, and its field is marked. In C# the setter is
private where the property keeps a field. Where the value lives in a store the setter is open,
whether the property is read-only or not (`Job.readOnly_setters_private_iff`).
-/

namespace ApiScribe

open Model Plan Source Text

/-! ## Accessors in C# -/

namespace CSharp

inductive AccessorBody where
  /-- It reaches a field that has no name. -/
  | automatic
  /-- It gives a value. -/
  | expression (value : String)
  /-- It runs a statement. -/
  | statement (code : String)

/-- A body as it stands behind the keyword. -/
@[simp] def AccessorBody.text : AccessorBody → String
  | automatic => ";"
  | expression value => " => " ++ value ++ ";"
  | statement code => " \x7b " ++ code ++ " \x7d"

@[simp] def AccessorBody.isStatement : AccessorBody → Bool
  | statement _ => true
  | _ => false

structure PropertyAccessor where
  /-- Whether only the class itself may use it. -/
  isPrivate : Bool
  /-- Whether it sets the value, and does not get it. -/
  sets : Bool
  /-- What it does. -/
  body : AccessorBody

def PropertyAccessor.text (a : PropertyAccessor) : String :=
  (if a.isPrivate then "private " else "") ++ (if a.sets then "set" else "get") ++ a.body.text

/-- A declaration with accessors. They stand on one line with it, unless they run statements. -/
def declaration (head : String) (accessors : List PropertyAccessor) : List Step :=
  if accessors.any (·.body.isStatement) then
    [.block (head ++ " \x7b") "\x7d" (accessors.map fun a ↦ .line a.text)]
  else [.line (head ++ " \x7b " ++ " ".intercalate (accessors.map (·.text)) ++ " \x7d")]

def accessors (p : PropertyHead) : List PropertyAccessor :=
  match p.shape with
  | .navigation builder parts core =>
    let target := Dialect.address member parts
    let core := member core
    [⟨false, false, .expression s!"new {builder}({target}, {core})"⟩]
  | .stored store =>
    let store := member store
    [⟨false, false, .statement s!"return {store}?.Get<{p.type}>(nameof({p.name}));"⟩,
     ⟨false, true, .statement s!"{store}?.Set(nameof({p.name}), value);"⟩]
  | .field => [⟨false, false, .automatic⟩, ⟨p.property.readOnly, true, .automatic⟩]

theorem property_eq (p : PropertyHead) :
    property p = (describe p.property.description summary).map .line ++
      declaration (p.access ++ " " ++ p.type ++ " " ++ p.name) (accessors p) := by
  rw [property, accessors]
  congr 1
  cases p.shape with
  | navigation builder parts core =>
    simp [declaration, PropertyAccessor.text, toString, ← String.toList_inj]
  | stored store =>
    simp [declaration, PropertyAccessor.text, toString, ← String.toList_inj]
  | field =>
    cases p.property.readOnly <;>
      simp [declaration, PropertyAccessor.text, toString, ← String.toList_inj,
        String.intercalate_cons_cons]

/-- The setters of a read-only property are private unless it lives in a store. -/
theorem forall_setter_private_iff {p : PropertyHead} (h : p.property.readOnly = true) :
    (∀ a ∈ accessors p, a.sets = true → a.text = "private set;") ↔
      ∀ store, p.shape ≠ .stored store := by
  rw [accessors]
  cases p.shape with
  | navigation builder parts core => simp
  | stored store =>
    -- The text of the open setter starts with its keyword.
    refine iff_of_false (fun hall ↦ ?_) fun hnone ↦ hnone store rfl
    have htext := hall ⟨false, true, _⟩ (List.mem_cons_of_mem _ (List.mem_singleton_self _)) rfl
    simp [PropertyAccessor.text, ← String.toList_inj] at htext
  | field => simp [h, PropertyAccessor.text]

end CSharp

/-! ## Members in TypeScript -/

namespace TypeScript

inductive PropertyMember where
  | field (readOnly : Bool) (type : String)
  /-- A method that gives the value. -/
  | getter (type code : String)
  /-- A method that sets the value. -/
  | setter (type code : String)

def PropertyMember.step (access name : String) : PropertyMember → Step
  | field readOnly type =>
    .line (access ++ (if readOnly then " readonly " else " ") ++ name ++ "?: " ++ type ++ ";")
  | getter type code =>
    .block (access ++ " get " ++ name ++ "(): " ++ type ++ " \x7b") "\x7d" [.line code]
  | setter type code =>
    .block (access ++ " set " ++ name ++ "(value: " ++ type ++ ") \x7b") "\x7d" [.line code]

def members (p : PropertyHead) : List PropertyMember :=
  match p.shape with
  | .navigation builder parts core =>
    let target := Dialect.address member parts
    let core := member core
    [.getter p.type s!"return new {builder}({target}, {core});"]
  | .stored store =>
    let store := member store
    let key := Text.quote p.property.name
    .getter s!"{p.type} | undefined" s!"return {store}.get<{p.type}>({key});" ::
      if p.property.readOnly then []
      else [.setter s!"{p.type} | undefined" s!"{store}.set({key}, value);"]
  | .field =>
    let type := if p.flagEnum then s!"{p.type}[]" else p.type
    [.field p.property.readOnly s!"{type} | undefined"]

theorem property_eq (p : PropertyHead) :
    property p = (describe p.property.description summary).map .line ++
      (members p).map (·.step p.access p.name) := by
  rw [property, members]
  congr 1
  cases p.shape with
  | navigation builder parts core => simp [PropertyMember.step, toString]
  | stored store =>
    cases p.property.readOnly <;> simp [PropertyMember.step, toString, ← String.toList_inj]
  | field =>
    cases p.property.readOnly <;> simp [PropertyMember.step, toString, ← String.toList_inj]

theorem setter_notMem_members {p : PropertyHead} (h : p.property.readOnly = true)
    (type code : String) : .setter type code ∉ members p := by
  rw [members]
  cases p.shape <;> simp [h]

end TypeScript

/-! ## Read-only properties -/

/-- A property does not live in a store exactly if it is no data or the class has no store. -/
theorem Plan.valueSource_ne_stored_iff {s : Spelling} {c : ClassDef} {p : Property} :
    (∀ store, valueSource s c p ≠ .stored store) ↔
      (p.kind = .custom ∨ p.kind = .additionalData → c.propertyOfKind? .backingStore = none) := by
  simp only [ne_eq, valueSource_eq_stored_iff, not_and]
  rw [forall_comm]
  refine forall_congr' fun _ ↦ ?_
  cases c.propertyOfKind? .backingStore <;> simp

namespace Job

variable {j : Job} {c : ClassDef} {p : Property}

/-- **Who may set a read-only property.** In TypeScript it has no setter, and its field is marked as
read-only. In C# it has no setter but `private set;` exactly if it is no data or the class has no
store. -/
theorem readOnly_setters_private_iff (hname : p.name ≠ "") (hreadOnly : p.readOnly = true) :
    ∃ decl, propertyHead j.model j.spelling c p = .ok decl ∧
      (∀ id index, j.model.class? id = some c → c.properties[index]? = some p →
        j.propertyText id index = .ok (render (j.dialect.property decl))) ∧
      (j.config.language = .csharp →
        j.dialect.property decl =
          (describe p.description CSharp.summary).map .line ++
            CSharp.declaration (decl.access ++ " " ++ decl.type ++ " " ++ decl.name)
              (CSharp.accessors decl) ∧
        ((∀ a ∈ CSharp.accessors decl, a.sets = true → a.text = "private set;") ↔
          (p.kind = .custom ∨ p.kind = .additionalData → c.propertyOfKind? .backingStore = none))) ∧
      (j.config.language = .typescript →
        j.dialect.property decl =
          (describe p.description TypeScript.summary).map .line ++
            (TypeScript.members decl).map (·.step decl.access decl.name) ∧
        (∀ type code, .setter type code ∉ TypeScript.members decl) ∧
        (KeepsField c p → ∃ type, TypeScript.members decl = [.field true type])) := by
  obtain ⟨decl, hdecl, hproperty, hshape⟩ : ∃ decl, propertyHead j.model j.spelling c p = .ok decl ∧
      decl.property = p ∧ decl.shape = valueSource j.spelling c p := by
    simp [propertyHead, hname]
  subst hproperty
  refine ⟨decl, hdecl, fun id index hc hp ↦ ?_, fun hlanguage ↦ ⟨?_, ?_⟩,
    fun hlanguage ↦ ⟨?_, TypeScript.setter_notMem_members hreadOnly, fun hfield ↦ ?_⟩⟩
  · rw [propertyText_eq hc hp, propertyLayout, hdecl]
    rfl
  · rw [dialect, hlanguage]
    exact CSharp.property_eq decl
  · rw [CSharp.forall_setter_private_iff hreadOnly, hshape, valueSource_ne_stored_iff]
  · rw [dialect, hlanguage]
    exact TypeScript.property_eq decl
  · rw [← valueSource_eq_field_iff, ← hshape] at hfield
    rw [TypeScript.members, hfield, hreadOnly]
    exact ⟨_, rfl⟩

/-- The store of a class, which only the class itself sets. -/
def readOnlyStore : Property where
  name := "backingStore"
  kind := .backingStore
  type := { name := "BackingStore" }
  readOnly := true

/-- A read-only piece of data that lives in the store. -/
def readOnlyStored : Property where
  name := "label"
  kind := .custom
  type := { name := "string" }
  readOnly := true

def readOnlyClass : ClassDef where
  name := "item"
  parent := 0
  properties := [readOnlyStore, readOnlyStored]

def readOnlyJob (language : Language) : Job where
  model := { namespaces := [{ name := "", parent := none }], classes := [readOnlyClass] }
  config := { language := language }

/-- Only the class itself sets its store. -/
theorem readOnly_setters_private_readOnlyStore :
    ∃ decl, propertyHead (readOnlyJob .csharp).model (readOnlyJob .csharp).spelling readOnlyClass
        readOnlyStore = .ok decl ∧
      ∀ a ∈ CSharp.accessors decl, a.sets = true → a.text = "private set;" := by
  obtain ⟨decl, hdecl, -, hcsharp, -⟩ :=
    @readOnly_setters_private_iff (readOnlyJob .csharp) readOnlyClass readOnlyStore (by decide) rfl
  exact ⟨decl, hdecl, (hcsharp rfl).2.2 (by decide)⟩

/-- Everyone may set the piece of data in C#, and nobody in TypeScript. -/
theorem propertyText_readOnlyStored :
    readOnlyStored.readOnly = true ∧
      (readOnlyJob .csharp).propertyText 0 1 = .ok ("public string Label \x7b\n" ++
        "    get \x7b return BackingStore?.Get<string>(nameof(Label)); \x7d\n" ++
        "    set \x7b BackingStore?.Set(nameof(Label), value); \x7d\n\x7d\n") ∧
      (readOnlyJob .typescript).propertyText 0 1 = .ok
        ("public get label(): string | undefined \x7b\n" ++
          "    return this.backingStore.get<string>(\"label\");\n\x7d\n") :=
  ⟨rfl, rfl, rfl⟩

end Job

end ApiScribe
