import ApiScribe.Proofs.Generate.Layouts
import ApiScribe.Proofs.Source.Layout

/-!
# The members of a dialect are paired layouts

What a dialect writes for a property and for each kind of body goes out as often as it goes in, and
never first. A method puts its body between a step in and a step out, so it has the same property
(`IsPaired.method`).

A class is different: its head and its end are written by two layouts, neither of which is paired.
-/

namespace ApiScribe

open Plan Source

namespace Dialect

/-- Dialects whose members are paired layouts. -/
structure IsPaired (d : Dialect) : Prop where
  property : ∀ p, Paired (d.property p)
  deserializer : ∀ plan, Paired (d.deserializer plan)
  requestGenerator : ∀ plan, Paired (d.requestGenerator plan)
  requestExecutor : ∀ plan, Paired (d.requestExecutor plan)
  accessor : ∀ plan, Paired (d.accessor plan)

theorem paired_call (head : String) (arguments : List String) : Paired (call head arguments) := by
  rw [call]
  split
  · exact .line _
  · exact .cons (.line _) (.append (.nest (.line _)) (.line _))

theorem paired_pair (a b : String) : Paired [.line a, .line b] :=
  .cons (.line a) (.line b)

theorem paired_triple (a b c : String) : Paired [.line a, .line b, .line c] :=
  .cons (.line a) (paired_pair b c)

/-- A method is its head, then its guards and its body one level further in, then a brace. -/
theorem method_eq (d : Dialect) (doc : Doc) (prototype : Prototype) (guards : List Guard)
    (b : Body) :
    d.method doc prototype guards b =
      (d.documentation doc ++ d.prototype prototype).map .line ++
        (.indent :: ((d.baseInitializer prototype ++ guards.map d.guard).map .line ++ d.body b ++
          [.dedent]) ++ [.line "\x7d"]) := by
  rw [method]
  simp only [List.map_append, List.map_map, List.append_assoc, List.cons_append, List.nil_append]

theorem IsPaired.body {d : Dialect} (h : d.IsPaired) : ∀ b, Paired (d.body b)
  | .serializer _ => .map_line _ _
  | .deserializer plan => h.deserializer plan
  | .requestGenerator plan => h.requestGenerator plan
  | .requestExecutor plan => h.requestExecutor plan
  | .constructor _ => .map_line _ _
  | .accessor plan => h.accessor plan
  | .indexer _ => .line _
  | .custom _ => .map_line _ _

theorem IsPaired.method {d : Dialect} (h : d.IsPaired) (doc : Doc) (prototype : Prototype)
    (guards : List Guard) (b : Body) : Paired (d.method doc prototype guards b) := by
  have hinside := (Paired.map_line id (d.baseInitializer prototype ++ guards.map d.guard)).append
    (h.body b)
  rw [method_eq]
  exact .append (.map_line _ _) (hinside.nest.append (.line _))

theorem adds_method (d : Dialect) (doc : Doc) (prototype : Prototype) (guards : List Guard)
    {b : Body} {unit : String} {level : Nat} {text : String}
    (h : Adds unit (level + 1) (d.body b) text) :
    Adds unit level (d.method doc prototype guards b)
      (Page.linesText unit level (d.documentation doc ++ d.prototype prototype) ++
        (Page.linesText unit (level + 1) (d.baseInitializer prototype ++ guards.map d.guard) ++
          text ++ Page.lineText unit level "\x7d")) := by
  have hinside := (Adds.texts (d.baseInitializer prototype ++ guards.map d.guard)).append h
  rw [method_eq]
  exact (Adds.texts _).append (hinside.nest.append (.line _))

end Dialect

/-! ## The languages -/

theorem CSharp.isPaired : CSharp.dialect.IsPaired where
  property p := by
    refine .append (.map_line _ _) ?_
    split
    · exact .line _
    · exact .block _ _ (Dialect.paired_pair _ _)
    · exact .line _
  deserializer plan := .block _ _ (.map_line _ _)
  requestGenerator plan := by
    have hquery : ∀ q, Paired [CSharp.query q] := fun q ↦
      .block _ _ (Dialect.paired_triple _ _ _)
    exact .append (.append (.append (.append (.block _ _ (Dialect.paired_pair _ _))
      (.toList_map (fun _ ↦ .line _) _)) (.toList_map hquery _))
      (.toList_map (fun _ ↦ .line _) _)) (.line _)
  requestExecutor plan := .append (Dialect.paired_call _ _) (.line _)
  accessor plan := .nil

theorem Java.isPaired : Java.dialect.IsPaired where
  property p := by
    change Paired (Java.property p)
    rw [Java.property]
    split
    · exact .append (.map_line _ _) (.block _ _ (.line _))
    · exact .nil
    · exact .append (.map_line _ _) (.line _)
  deserializer plan := .cons (.block _ _ (.map_line _ _)) (.line _)
  requestGenerator plan := by
    have hquery : ∀ q, Paired [Java.query q] := fun q ↦
      .block _ _ (Dialect.paired_triple _ _ _)
    have hheaders : ∀ h, Paired [Java.headers h] := fun h ↦ .block _ _ (.line _)
    exact .append (.append (.append (.append (.block _ _ (Dialect.paired_pair _ _))
      (.toList_map (fun _ ↦ .line _) _)) (.toList_map hquery _)) (.toList_map hheaders _)) (.line _)
  requestExecutor plan := by
    -- The `try` goes in and out by hand, since its footer is the header of the `catch`.
    have hinside := (Dialect.paired_call
      s!"final RequestInformation requestInfo = {plan.generator}" plan.arguments).append
      (.line (Java.send plan))
    have hcatch : Paired [.block s!"\x7d catch ({Java.uriException} ex) \x7b" "\x7d"
        [.line s!"return {Java.future}.failedFuture(ex);"]] := .block _ _ (.line _)
    have hall := Paired.cons (.line "try \x7b") (hinside.nest.append hcatch)
    simpa only [Java.dialect, Java.requestExecutor, List.append_assoc, List.cons_append,
      List.nil_append] using hall
  accessor plan := by
    change Paired (Java.accessor plan)
    rw [Java.accessor]
    split
    · split
      · exact .line _
      · exact .cons (.line _) (.cons (.block _ _ (Dialect.paired_pair _ _)) (.line _))
    · exact .append (.toList_map (fun _ ↦ .block _ _ (.line _)) _) (.line _)
    · exact .line _
    · exact .line _

theorem TypeScript.isPaired : TypeScript.dialect.IsPaired where
  property p := by
    refine .append (.map_line _ _) ?_
    split
    · exact .block _ _ (.line _)
    · refine .cons (.block _ _ (.line _)) ?_
      split
      · exact .nil
      · exact .block _ _ (.line _)
    · exact .line _
  deserializer plan := .block _ _ (.append (.toList_map (fun _ ↦ .line _) _) (.map_line _ _))
  requestGenerator plan := by
    have hquery : ∀ q, Paired [TypeScript.query q] := fun q ↦
      .block _ _ (Dialect.paired_triple _ _ _)
    exact .append (.append (.append (.append (Dialect.paired_triple _ _ _)
      (.toList_map (fun _ ↦ .line _) _)) (.toList_map hquery _))
      (.toList_map (fun _ ↦ .line _) _)) (.line _)
  requestExecutor plan := .append (Dialect.paired_call _ _) (.line _)
  accessor plan := .nil

theorem Language.isPaired_dialect : ∀ l : Language, l.dialect.IsPaired
  | .csharp => CSharp.isPaired
  | .java => Java.isPaired
  | .typescript => TypeScript.isPaired

end ApiScribe
