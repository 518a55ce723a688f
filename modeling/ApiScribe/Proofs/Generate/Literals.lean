import ApiScribe.Generate.Emit
import ApiScribe.Proofs.Source.Relocation
import ApiScribe.Proofs.Text.LetterCase
import ApiScribe.Proofs.Text.Literal

/-!
# Literals in generated code

Texts of the model stand in generated code as literals: keys on the wire and in a store, parts of
paths, media types and the values of enums between double quotation marks, and the modules that a
file imports from between single ones. A literal that does not end at its own mark either breaks off
or reaches into the code behind it.

In all places for double-quoted literals (`Spells`) the quoted text stands in a line of its own,
with a fixed `Frame` around it. That line stands on every page that the layout is written onto
(`Spells.hasLine`), and the text reads back from there (`literals_read_back`).

Between single quotation marks backslashes are left as they are, and a reader takes each for the
start of an escape. So a module specifier reads back exactly if it spells no backslash
(`TypeScript.specifier_reads_back_iff`).
-/

namespace ApiScribe

open Model Plan Source Text

/-! ## Lines with a literal -/

/-- What stands in front of a literal in its line, and what stands behind it. -/
structure Frame where
  front : String
  back : String

/-- The line with a text as a double-quoted literal. -/
def Frame.line (frame : Frame) (text : String) : String :=
  frame.front ++ quote text ++ frame.back

theorem Frame.lineText_line (frame : Frame) (unit : String) (level : Nat) (text : String) :
    Page.lineText unit level (frame.line text) =
      Page.margin unit level ++ frame.line text ++ "\n" := by
  have hne : (frame.line text).isEmpty = false := by
    simp [Frame.line, quote]
  rw [Page.lineText, hne]
  rfl

namespace Language

/-- A property of the object whose code is written, where nothing else bears its name. -/
def bareMember (name : String) : Language → String
  | .csharp => upperFirst name
  | .java => lowerFirst name
  | .typescript => "this." ++ lowerFirst name

def term (l : Language) : AddressTerm → String
  | .property name => l.bareMember name
  | .parameter name => name
  | .literal text => quote text

def termsBefore (l : Language) (parts : List AddressTerm) : String :=
  String.join (parts.map fun part ↦ l.term part ++ " + ")

def termsAfter (l : Language) (parts : List AddressTerm) : String :=
  String.join (parts.map fun part ↦ " + " ++ l.term part)

/-- A key that a value is written under. -/
def writeFrame (writer : String) (f : Field) : Language → Frame
  | .csharp => ⟨s!"{writer}.{f.accessor}(", s!", {upperFirst f.property.name});"⟩
  | .java =>
    let getter := "get" ++ upperFirst f.property.name
    ⟨s!"{writer}.{f.accessor}(", s!", this.{getter}());"⟩
  | .typescript =>
    let value := "this." ++ lowerFirst f.property.name
    ⟨s!"{writer}.{f.accessor}(", s!", {value});"⟩

/-- A key that a value is read under. -/
def readFrame (className : String) (f : Field) : Language → Frame
  | .csharp =>
    let target := upperFirst f.property.name
    let collapse := if f.family.isCollection then ".ToList()" else ""
    ⟨"[", s!"] = (o,n) => \x7b (o as {className}).{target} = n.{f.accessor}(){collapse}; \x7d,"⟩
  | .java =>
    let setter := "set" ++ upperFirst f.property.name
    let type := (f.family.typeArgument?.map fun type ↦ s!"{type}.class").getD ""
    ⟨"this.put(", s!", (o, n) -> \x7b (({className})o).{setter}(n.{f.accessor}({type})); \x7d);"⟩
  | .typescript =>
    let target := lowerFirst f.property.name
    let type := TypeScript.readArguments f.family
    ⟨"[", s!", (o, n) => \x7b (o as unknown as {className}).{target} = " ++
      s!"n.{f.accessor}({type}); \x7d],"⟩

def addressFrame (before after : List AddressTerm) : Language → Frame
  | .csharp => ⟨"URI = new Uri(" ++ termsBefore .csharp before, termsAfter .csharp after ++ "),"⟩
  | .java => ⟨"uri = new URI(" ++ termsBefore .java before, termsAfter .java after ++ ");"⟩
  | .typescript =>
    ⟨"requestInfo.URI = " ++ termsBefore .typescript before, termsAfter .typescript after ++ ";"⟩

/-- A segment in the address of a builder that a method gives. -/
def builderFrame (l : Language) (builder core : String) (before after : List AddressTerm) : Frame :=
  ⟨s!"return new {builder}(" ++ l.termsBefore before,
    l.termsAfter after ++ s!", {l.bareMember core});"⟩

/-- The media type of a body. -/
def contentTypeFrame (p : Parameter) (core : String) : Language → Frame
  | .csharp => ⟨s!"requestInfo.SetContentFromParsable({p.name}, {bareMember core .csharp}, ", ");"⟩
  | .java => ⟨s!"requestInfo.setContentFromParsable({p.name}, {bareMember core .java}, ", ");"⟩
  | .typescript =>
    ⟨s!"requestInfo.setContentFromParsable({p.name}, {bareMember core .typescript}, ", ");"⟩

end Language

/-- A key in a backing store, as a getter or a setter of Java uses it. -/
def Java.accessFrame (plan : Accessor) (store : String) : Frame :=
  let store := "get" ++ upperFirst store
  let reader := s!"this.{store}().get("
  match plan.direction, plan.default with
  | .read, none => ⟨s!"return {reader}", ");"⟩
  | .read, some _ => ⟨s!"{plan.type} value = {reader}", ");"⟩
  | .write, _ => ⟨s!"this.{store}().set(", s!", {plan.value});"⟩

/-- The places where a language writes a text of the model as a literal: keys on the wire and in a
store, parts of a path, media types, and the values of enums. Each is a layout, the frame of the
literal in one of its lines, and the text. -/
inductive Spells : Language → List Step → Frame → String → Prop
  | writtenKey (l : Language) {plan : Serializer} {f : Field} (h : f ∈ plan.writes) :
      Spells l ((l.dialect.serializer plan).map .line) (l.writeFrame plan.writer f) f.key
  | readKey (l : Language) {plan : Deserializer} {f : Field} (h : f ∈ plan.entries) :
      Spells l (l.dialect.deserializer plan) (l.readFrame plan.className f) f.key
  | storeRead {p : PropertyHead} {store : String} (h : p.shape = .stored store) :
      Spells .typescript (TypeScript.dialect.property p)
        ⟨s!"return {TypeScript.member store}.get<{p.type}>(", ");"⟩ p.property.name
  | storeWrite {p : PropertyHead} {store : String} (h : p.shape = .stored store)
      (hopen : p.property.readOnly = false) :
      Spells .typescript (TypeScript.dialect.property p)
        ⟨s!"{TypeScript.member store}.set(", ", value);"⟩ p.property.name
  | accessedKey {plan : Accessor} {store : String} (h : plan.backingStore = some store) :
      Spells .java (Java.dialect.accessor plan) (Java.accessFrame plan store) plan.property.name
  | segment (l : Language) {plan : RequestGenerator} {text : String}
      {before after : List AddressTerm} (h : plan.address = before ++ .literal text :: after) :
      Spells l (l.dialect.requestGenerator plan) (l.addressFrame before after) text
  | itemSegment (l : Language) {plan : Indexer} {text : String} {before after : List AddressTerm}
      (h : plan.address = before ++ .literal text :: after) :
      Spells l [.line (l.dialect.indexer plan)]
        (l.builderFrame plan.returnType plan.httpCore before after) text
  | contentType (l : Language) {plan : RequestGenerator} {p : Parameter} {text : String}
      (h : plan.body = some (.parsable p text)) :
      Spells l (l.dialect.requestGenerator plan) (l.contentTypeFrame p plan.httpCore) text
  | javaValue {e : EnumHead} {m : EnumMember} {before after : List EnumMember}
      (h : e.members = before ++ m :: after) :
      Spells .java (Java.dialect.enumeration e)
        ⟨s!"{shoutyCase m.name}(", if after = [] then ");" else "),"⟩ m.name
  | typescriptValue {e : EnumHead} {m : EnumMember} (h : m ∈ e.members) :
      Spells .typescript (TypeScript.dialect.enumeration e) ⟨s!"{pascalCase m.name} = ", ","⟩ m.name

/-! ## The lines are there -/

theorem toString_text (s : String) : toString s = s := rfl

namespace Language

theorem address_eq (l : Language) (text : String) (before after : List AddressTerm) :
    Dialect.address (fun name ↦ l.bareMember name) (before ++ .literal text :: after) =
      l.termsBefore before ++ quote text ++ l.termsAfter after := by
  have hterms (parts : List AddressTerm) : Dialect.address (fun name ↦ l.bareMember name) parts =
      " + ".intercalate (parts.map l.term) := rfl
  rw [hterms, List.map_append, List.map_cons, intercalate_append_cons]
  simp only [List.map_map]
  rfl

/-- Languages that write the keys on the wire, the parts of paths and the media types in their
frames. -/
structure IsQuoting (l : Language) : Prop where
  serializer : ∀ {plan : Serializer} {f : Field}, f ∈ plan.writes →
    (l.writeFrame plan.writer f).line f.key ∈ l.dialect.serializer plan
  deserializer : ∀ {plan : Deserializer} {f : Field}, f ∈ plan.entries →
    HasLine ((l.readFrame plan.className f).line f.key) (l.dialect.deserializer plan)
  address : ∀ {plan : RequestGenerator} {text : String} {before after : List AddressTerm},
    plan.address = before ++ .literal text :: after →
      HasLine ((l.addressFrame before after).line text) (l.dialect.requestGenerator plan)
  contentType : ∀ {plan : RequestGenerator} {p : Parameter} {text : String},
    plan.body = some (.parsable p text) →
      HasLine ((l.contentTypeFrame p plan.httpCore).line text) (l.dialect.requestGenerator plan)
  indexer : ∀ {plan : Indexer} {text : String} {before after : List AddressTerm},
    plan.address = before ++ .literal text :: after →
      l.dialect.indexer plan =
        (l.builderFrame plan.returnType plan.httpCore before after).line text

end Language

namespace CSharp

theorem write_eq (writer : String) (f : Field) :
    write writer f = (Language.writeFrame writer f .csharp).line f.key := by
  unfold write Language.writeFrame Frame.line member
  simp only [toString_text, String.append_assoc]

theorem entry_eq (className : String) (f : Field) :
    entry className f = (Language.readFrame className f .csharp).line f.key := by
  unfold entry Language.readFrame Frame.line member
  simp only [toString_text, String.append_assoc]

theorem isQuoting : Language.IsQuoting .csharp where
  serializer {plan f} hf := by
    rw [← write_eq]
    exact List.mem_append_left _ (List.mem_append_right _ (List.mem_map_of_mem hf))
  deserializer {plan f} hf := by
    rw [← entry_eq]
    exact .block List.mem_cons_self (.line (List.mem_map.2 ⟨f, hf, rfl⟩))
  address {plan text before after} h := by
    have haddress : Dialect.address member plan.address = _ :=
      h ▸ Language.address_eq .csharp text before after
    have hline : (Language.addressFrame before after .csharp).line text =
        s!"URI = new Uri({Dialect.address member plan.address})," := by
      rw [haddress]
      unfold Language.addressFrame Frame.line
      simp only [toString_text, String.append_assoc]
    rw [hline]
    exact .block List.mem_cons_self (.line (List.mem_cons_of_mem _ List.mem_cons_self))
  contentType {plan p text} h := by
    have hline : (Language.contentTypeFrame p plan.httpCore .csharp).line text =
        attach (member plan.httpCore) (.parsable p text) := by
      unfold attach Language.contentTypeFrame Frame.line member Language.bareMember
      simp only [toString_text, String.append_assoc]
    rw [hline]
    refine .line ?_
    change _ ∈ requestGenerator plan
    simp [requestGenerator, h]
  indexer {plan text before after} h := by
    have haddress : Dialect.address member plan.address = _ :=
      h ▸ Language.address_eq .csharp text before after
    change indexer plan = _
    unfold indexer Language.builderFrame Frame.line
    rw [haddress]
    simp only [toString_text, String.append_assoc]
    rfl

end CSharp

namespace Java

theorem write_eq (writer : String) (f : Field) :
    write writer f = (Language.writeFrame writer f .java).line f.key := by
  unfold write Language.writeFrame Frame.line getter
  simp only [toString_text, String.append_assoc]

theorem entry_eq (className : String) (f : Field) :
    entry className f = (Language.readFrame className f .java).line f.key := by
  unfold entry Language.readFrame Frame.line setter spelling
  simp only [toString_text, String.append_assoc]

theorem isQuoting : Language.IsQuoting .java where
  serializer {plan f} hf := by
    rw [← write_eq]
    exact List.mem_append_left _ (List.mem_append_right _ (List.mem_map_of_mem hf))
  deserializer {plan f} hf := by
    rw [← entry_eq]
    exact .block List.mem_cons_self (.line (List.mem_map.2 ⟨f, hf, rfl⟩))
  address {plan text before after} h := by
    have haddress : Dialect.address member plan.address = _ :=
      h ▸ Language.address_eq .java text before after
    have hline : (Language.addressFrame before after .java).line text =
        s!"uri = new URI({Dialect.address member plan.address});" := by
      rw [haddress]
      unfold Language.addressFrame Frame.line
      simp only [toString_text, String.append_assoc]
    rw [hline]
    exact .block List.mem_cons_self (.line List.mem_cons_self)
  contentType {plan p text} h := by
    have hline : (Language.contentTypeFrame p plan.httpCore .java).line text =
        attach (member plan.httpCore) (.parsable p text) := by
      unfold attach Language.contentTypeFrame Frame.line member Language.bareMember
      simp only [toString_text, String.append_assoc]
    rw [hline]
    refine .line ?_
    change _ ∈ requestGenerator plan
    simp [requestGenerator, h]
  indexer {plan text before after} h := by
    have haddress : Dialect.address member plan.address = _ :=
      h ▸ Language.address_eq .java text before after
    change indexer plan = _
    unfold indexer Language.builderFrame Frame.line
    rw [haddress]
    simp only [toString_text, String.append_assoc]
    rfl

end Java

namespace TypeScript

theorem write_eq (writer : String) (f : Field) :
    write writer f = (Language.writeFrame writer f .typescript).line f.key := by
  unfold write Language.writeFrame Frame.line member
  simp only [toString_text, String.append_assoc]

theorem entry_eq (className : String) (f : Field) :
    entry className f = (Language.readFrame className f .typescript).line f.key := by
  unfold entry Language.readFrame Frame.line spelling
  simp only [toString_text, String.append_assoc]

theorem isQuoting : Language.IsQuoting .typescript where
  serializer {plan f} hf := by
    rw [← write_eq]
    exact List.mem_append_left _ (List.mem_append_right _ (List.mem_map_of_mem hf))
  deserializer {plan f} hf := by
    rw [← entry_eq]
    exact .block List.mem_cons_self (.line (List.mem_append_right _ (List.mem_map.2 ⟨f, hf, rfl⟩)))
  address {plan text before after} h := by
    have haddress : Dialect.address member plan.address = _ :=
      h ▸ Language.address_eq .typescript text before after
    have hline : (Language.addressFrame before after .typescript).line text =
        s!"requestInfo.URI = {Dialect.address member plan.address};" := by
      rw [haddress]
      unfold Language.addressFrame Frame.line
      simp only [toString_text, String.append_assoc]
    rw [hline]
    exact .line (List.mem_cons_of_mem _ List.mem_cons_self)
  contentType {plan p text} h := by
    have hline : (Language.contentTypeFrame p plan.httpCore .typescript).line text =
        attach (member plan.httpCore) (.parsable p text) := by
      unfold attach Language.contentTypeFrame Frame.line member Language.bareMember
      simp only [toString_text, String.append_assoc]
    rw [hline]
    refine .line ?_
    change _ ∈ requestGenerator plan
    simp [requestGenerator, h]
  indexer {plan text before after} h := by
    have haddress : Dialect.address member plan.address = _ :=
      h ▸ Language.address_eq .typescript text before after
    change indexer plan = _
    unfold indexer Language.builderFrame Frame.line
    rw [haddress]
    simp only [toString_text, String.append_assoc]
    rfl

end TypeScript

theorem Language.isQuoting : ∀ l : Language, l.IsQuoting
  | .csharp => CSharp.isQuoting
  | .java => Java.isQuoting
  | .typescript => TypeScript.isQuoting

/-! ### Places in one language -/

namespace TypeScript

theorem hasLine_storeRead {p : PropertyHead} {store : String} (h : p.shape = .stored store) :
    HasLine (Frame.line ⟨s!"return {member store}.get<{p.type}>(", ");"⟩ p.property.name)
      (property p) := by
  have hline : Frame.line ⟨s!"return {member store}.get<{p.type}>(", ");"⟩ p.property.name =
      s!"return {member store}.get<{p.type}>({quote p.property.name});" := by
    unfold Frame.line
    simp only [toString_text, String.append_assoc]
  rw [hline, property, h]
  exact .block (List.mem_append_right _ List.mem_cons_self) (.line (List.mem_singleton_self _))

theorem hasLine_storeWrite {p : PropertyHead} {store : String} (h : p.shape = .stored store)
    (hopen : p.property.readOnly = false) :
    HasLine (Frame.line ⟨s!"{member store}.set(", ", value);"⟩ p.property.name) (property p) := by
  have hline : Frame.line ⟨s!"{member store}.set(", ", value);"⟩ p.property.name =
      s!"{member store}.set({quote p.property.name}, value);" := by
    unfold Frame.line
    simp only [toString_text, String.append_assoc]
  rw [hline, property, h, hopen]
  exact .block (List.mem_append_right _ (List.mem_cons_of_mem _ List.mem_cons_self))
    (.line (List.mem_singleton_self _))

theorem hasLine_enumeration {e : EnumHead} {m : EnumMember} (h : m ∈ e.members) :
    HasLine (Frame.line ⟨s!"{pascalCase m.name} = ", ","⟩ m.name) (enumeration e) :=
  .block (List.mem_append_right _ (List.mem_singleton_self _)) (.line (List.mem_map.2 ⟨m, h, rfl⟩))

end TypeScript

namespace Java

theorem hasLine_accessor {plan : Accessor} {store : String} (h : plan.backingStore = some store) :
    HasLine ((accessFrame plan store).line plan.property.name) (accessor plan) := by
  rw [accessor, accessFrame, h]
  cases plan.direction with
  | read =>
    cases plan.default with
    | none =>
      refine .line (List.mem_singleton.2 (congrArg Step.line ?_))
      unfold Frame.line getter
      simp only [toString_text, String.append_assoc, String.reduceAppend]
    | some value =>
      refine .line (List.mem_cons.2 (.inl (congrArg Step.line ?_)))
      unfold Frame.line getter
      simp only [toString_text, String.append_assoc, String.reduceAppend]
  | write =>
    refine .line (List.mem_singleton.2 (congrArg Step.line ?_))
    unfold Frame.line getter
    simp only [toString_text, String.append_assoc]

theorem mem_enumMembers (m : EnumMember) (before after : List EnumMember) :
    Frame.line ⟨s!"{shoutyCase m.name}(", if after = [] then ");" else "),"⟩ m.name ∈
      enumMembers (before ++ m :: after) := by
  have hvalue (stop : String) : enumMembers.enumMember m ++ stop =
      s!"{shoutyCase m.name}(" ++ quote m.name ++ (")" ++ stop) := by
    unfold enumMembers.enumMember
    simp only [toString_text, String.append_assoc]
  induction before with
  | nil =>
    cases after with
    | nil => exact List.mem_singleton.2 (hvalue ";").symm
    | cons next after => exact List.mem_cons.2 (.inl (hvalue ",").symm)
  | cons first before ih =>
    obtain ⟨second, rest, hrest⟩ := List.exists_cons_of_ne_nil
      (List.append_ne_nil_of_right_ne_nil before (List.cons_ne_nil m after))
    rw [List.cons_append, hrest, enumMembers, ← hrest]
    · exact List.mem_cons_of_mem _ ih
    · simp

theorem hasLine_enumeration {e : EnumHead} {m : EnumMember} {before after : List EnumMember}
    (h : e.members = before ++ m :: after) :
    HasLine (Frame.line ⟨s!"{shoutyCase m.name}(", if after = [] then ");" else "),"⟩ m.name)
      (enumeration e) := by
  have hline := mem_enumMembers m before after
  rw [← h] at hline
  refine .block (List.mem_append_right _ (List.mem_singleton_self _)) (.line ?_)
  exact List.mem_append_left _ (List.mem_append_right _ (List.mem_map_of_mem hline))

end Java

theorem Spells.hasLine {l : Language} {layout : List Step} {frame : Frame} {text : String}
    (h : Spells l layout frame text) : HasLine (frame.line text) layout := by
  cases h with
  | writtenKey l h => exact .line (List.mem_map_of_mem (l.isQuoting.serializer h))
  | readKey l h => exact l.isQuoting.deserializer h
  | storeRead h => exact TypeScript.hasLine_storeRead h
  | storeWrite h hopen => exact TypeScript.hasLine_storeWrite h hopen
  | accessedKey h => exact Java.hasLine_accessor h
  | segment l h => exact l.isQuoting.address h
  | itemSegment l h =>
    rw [l.isQuoting.indexer h]
    exact .line (List.mem_singleton_self _)
  | contentType l h => exact l.isQuoting.contentType h
  | javaValue h => exact Java.hasLine_enumeration h
  | typescriptValue h => exact TypeScript.hasLine_enumeration h

/-- **Texts in literals read back.** Double-quoted literals read back whatever follows them. Every
key, part of a path, media type and value of an enum stands as such a literal in its own line of the
page, and reading from there gives the text. -/
theorem literals_read_back :
    (∀ s t : String, LiteralForm.doubleQuoted.read? (quote s ++ t) = some (s, t)) ∧
      Function.Injective quote ∧
      (∀ s t u v : String, quote s ++ t = quote u ++ v → s = u ∧ t = v) ∧
      ∀ (l : Language) (layout : List Step) (frame : Frame) (text : String),
        Spells l layout frame text → ∀ page : Page, ∃ level above below,
          (page.run layout).output =
              page.output ++ Page.placedText page.unit above ++
                (Page.margin page.unit level ++ frame.front ++ quote text ++ frame.back ++ "\n") ++
                Page.placedText page.unit below ∧
            LiteralForm.doubleQuoted.read?
                (quote text ++ (frame.back ++ "\n" ++ Page.placedText page.unit below)) =
              some (text, frame.back ++ "\n" ++ Page.placedText page.unit below) := by
  have hread := LiteralForm.read?_quote
  have happend : ∀ s t u v : String, quote s ++ t = quote u ++ v → s = u ∧ t = v := by
    intro s t u v heq
    have hboth := (hread s t).symm.trans ((congrArg _ heq).trans (hread u v))
    exact Prod.mk.inj (Option.some.inj hboth)
  refine ⟨hread, fun s u heq ↦ ?_, happend, fun l layout frame text h page ↦ ?_⟩
  · exact (happend s "" u "" (by rw [heq])).1
  · obtain ⟨level, above, below, houtput⟩ := h.hasLine.exists_output page
    refine ⟨level, above, below, ?_, hread _ _⟩
    rw [houtput, frame.lineText_line, Frame.line]
    simp only [String.append_assoc]

/-- An enum with a value that holds quotation marks and ends in a backslash. -/
def quotesInValue : EnumHead where
  definition := { name := "reply", parent := 0, members := ["say \"no\"\\"] }
  name := "Reply"
  namespaceName := "ApiSdk"
  flags := false
  members := [⟨"say \"no\"\\", none⟩]

theorem literals_read_back_quotesInValue :
    ((Page.empty "    ").run (TypeScript.dialect.enumeration quotesInValue)).output =
        "export enum Reply \x7b\n    SayNo = \"say \\\"no\\\"\\\\\",\n\x7d\n" ∧
      ∃ level above below,
        ((Page.empty "    ").run (TypeScript.dialect.enumeration quotesInValue)).output =
            "" ++ Page.placedText "    " above ++
              (Page.margin "    " level ++ "SayNo = " ++ quote "say \"no\"\\" ++ "," ++ "\n") ++
              Page.placedText "    " below ∧
          LiteralForm.doubleQuoted.read?
              (quote "say \"no\"\\" ++ ("," ++ "\n" ++ Page.placedText "    " below)) =
            some ("say \"no\"\\", "," ++ "\n" ++ Page.placedText "    " below) := by
  have hspells : Spells .typescript (TypeScript.dialect.enumeration quotesInValue) ⟨"SayNo = ", ","⟩
      "say \"no\"\\" :=
    .typescriptValue (m := ⟨"say \"no\"\\", none⟩) List.mem_cons_self
  exact ⟨by decide +kernel, literals_read_back.2.2.2 _ _ _ _ hspells _⟩

/-! ## Module specifiers -/

namespace TypeScript

/-- What the specifier of an import spells: a module from outside as it is, and otherwise the
segments of the way down and the name. -/
def spelledTexts (namespaceName : String) (i : ImportEntry) : List String :=
  if i.external then [i.module]
  else
    let source := namespaceSegments namespaceName
    let target := namespaceSegments i.module
    target.drop (commonLength source target) ++ [i.name]

/-- A character of ASCII without case that is not part of the way stands in a specifier only if it
stands in what is spelled. -/
theorem mem_moduleSpecifier_iff {d : Char} (hd : isCaseless d = true) (hway : d ∉ ['.', '/'])
    {namespaceName : String} {i : ImportEntry} :
    d ∈ (moduleSpecifier namespaceName i).toList ↔
      ∃ text ∈ spelledTexts namespaceName i, d ∈ text.toList := by
  rw [moduleSpecifier, spelledTexts]
  split
  · simp
  · obtain ⟨hdot, hslash⟩ : d ≠ '.' ∧ d ≠ '/' := by simpa using hway
    have hup : ∀ up,
        d ∉ (if up = 0 then "./" else String.join (List.replicate up "../")).toList := by
      intro up hmem
      split at hmem
      · simp [hdot, hslash] at hmem
      · obtain ⟨s, hs, hmem⟩ := mem_join_iff.1 hmem
        rw [List.eq_of_mem_replicate hs] at hmem
        simp [hdot, hslash] at hmem
    have hdown : ∀ segments : List String,
        d ∈ (String.join (segments.map fun segment ↦ lowerFirst segment ++ "/")).toList ↔
          ∃ text ∈ segments, d ∈ text.toList := by
      intro segments
      have hspelled : ∀ text, d ∈ (lowerFirst text ++ "/").toList ↔ d ∈ text.toList := by
        intro text
        simp [mem_lowerFirst_iff hd, hslash]
      rw [mem_join_iff]
      constructor
      · rintro ⟨_, hs, hmem⟩
        obtain ⟨text, htext, rfl⟩ := List.mem_map.1 hs
        exact ⟨text, htext, (hspelled text).1 hmem⟩
      · rintro ⟨text, htext, hmem⟩
        exact ⟨_, List.mem_map_of_mem htext, (hspelled text).2 hmem⟩
    rw [pathBetween, String.toList_append, String.toList_append, List.mem_append, List.mem_append,
      or_iff_right (hup _), hdown, mem_lowerFirst_iff hd]
    simp [or_and_right, exists_or]

/-- **When module specifiers read back.** An import ends with its specifier as a single-quoted
literal and a semicolon. Whatever follows the literal, it reads back exactly if nothing that the
specifier spells holds a backslash. -/
theorem specifier_reads_back_iff (namespaceName : String) (i : ImportEntry) :
    (∃ before, importLine namespaceName i =
        before ++ quoteSingle (moduleSpecifier namespaceName i) ++ ";") ∧
      ∀ t : String,
        LiteralForm.singleQuoted.read? (quoteSingle (moduleSpecifier namespaceName i) ++ t) =
            some (moduleSpecifier namespaceName i, t) ↔
          ∀ text ∈ spelledTexts namespaceName i, '\\' ∉ text.toList := by
  refine ⟨⟨_, rfl⟩, fun t ↦ ?_⟩
  rw [LiteralForm.read?_quoteSingle_iff, mem_moduleSpecifier_iff (by decide) (by decide)]
  simp

end TypeScript

namespace Job

/-- A class that imports from a module outside, whose name has backslashes. -/
def backslashImports : ClassDef where
  name := "outpost"
  parent := 0
  imports :=
    [{ name := "Parser", source := some "lib\\json" },
     { name := "Tape", source := some "tape\\" }]

def backslashImportsJob : Job where
  model :=
    { namespaces := [{ name := "", parent := none, classes := [0] }]
      classes := [backslashImports] }
  config := { language := .typescript }

/-- Within a specifier a backslash is lost, and at the end of one it takes the mark with it, so that
the literal goes on into the code. -/
theorem specifiers_of_backslashImports :
    backslashImportsJob.classFile 0 = .ok ⟨"ApiSdk", "Outpost", "ts",
        "import \x7bParser\x7d from 'lib\\json';\nimport \x7bTape\x7d from 'tape\\';\n\n" ++
        "export class Outpost \x7b\n\x7d\n"⟩ ∧
      TypeScript.moduleSpecifier "ApiSdk" ⟨"lib\\json", "Parser", true⟩ = "lib\\json" ∧
      LiteralForm.singleQuoted.read? (quoteSingle "lib\\json" ++ ";\n") = some ("libjson", ";\n") ∧
      TypeScript.moduleSpecifier "ApiSdk" ⟨"tape\\", "Tape", true⟩ = "tape\\" ∧
      LiteralForm.singleQuoted.read? (quoteSingle "tape\\" ++ ";\n") = none :=
  ⟨rfl, rfl, by decide +kernel, rfl, by decide +kernel⟩

end Job

end ApiScribe
