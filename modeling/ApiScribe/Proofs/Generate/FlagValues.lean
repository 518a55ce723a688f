import ApiScribe.Generate.Emit
import ApiScribe.Proofs.Source.Relocation
import Mathlib.Algebra.Order.Ring.Nat
import Mathlib.Data.Nat.Basic

/-!
# The values of flags

Members that are combined get one bit each, in the order in which they are declared. Planning walks
along the members and asks for one bit after the other. A value has 64 of them, so the walk breaks
off exactly if there are more members than that (`enumMembers?_eq_none_iff`), and where it does not,
member number `i` has the value `2 ^ i` (`map_shown_of_enumMembers?`).

In C# the values of an enum are signed and have 32 bits unless it says otherwise. The last bit of
those is the sign, so the first flag that they do not hold is that of the 32nd member, and an enum
says otherwise exactly from there on (`CSharp.isWide_iff`).
-/

namespace ApiScribe

open Model Source Text

/-- The members of an enum that have a name. -/
def Model.EnumDef.named (e : EnumDef) : List String :=
  e.members.filter (!·.isEmpty)

/-- The value of member number `i`, where members are combined. -/
def Model.EnumDef.valueAt (e : EnumDef) (i : Nat) : Option Nat :=
  if e.flags then some (2 ^ i) else none

namespace Plan

variable {flags : Bool} {i : Nat} {name : String} {names : List String}

/-! ## One member -/

theorem flagBit?_eq_none_iff : flagBit? i = none ↔ 64 ≤ i := by
  rw [flagBit?]
  split
  · next h => simpa using h
  · next h => simpa using h

/-- The bit of a number below 64 is not shifted out of the word. -/
theorem toNat_of_flagBit? {bit : UInt64} (h : flagBit? i = some bit) : bit.toNat = 2 ^ i := by
  rw [flagBit?] at h
  split at h
  · next hi =>
    cases h
    have hshift : (UInt64.ofNat i).toNat % 64 = i := by
      rw [UInt64.toNat_ofNat']
      omega
    have hword : 2 ^ i < 2 ^ 64 := Nat.pow_lt_pow_right (by decide) hi
    rw [UInt64.toNat_shiftLeft, hshift, UInt64.toNat_one, Nat.one_shiftLeft]
    exact Nat.mod_eq_of_lt hword
  · cases h

/-- A member as it shows: its name and its value. -/
def EnumMember.shown (m : EnumMember) : String × Option Nat :=
  (m.name, m.flag.map UInt64.toNat)

theorem enumMember?_eq_none_iff : enumMember? flags i name = none ↔ flags = true ∧ 64 ≤ i := by
  rw [enumMember?]
  cases flags with
  | true => simp [flagBit?_eq_none_iff]
  | false => simp

theorem shown_of_enumMember? {e : EnumDef} {m : EnumMember}
    (h : enumMember? e.flags i name = some m) : m.shown = (name, e.valueAt i) := by
  rw [EnumDef.valueAt]
  rw [enumMember?] at h
  split at h
  · next hflags =>
    obtain ⟨bit, hbit, rfl⟩ := Option.map_eq_some_iff.1 h
    rw [if_pos hflags, EnumMember.shown, Option.map_some, toNat_of_flagBit? hbit]
  · next hflags =>
    cases h
    rw [if_neg hflags]
    rfl

/-! ## All members -/

/-- The bits run out exactly if members are combined and the last of them has none. -/
theorem enumMembers?_eq_none_iff :
    enumMembers? flags i names = none ↔
      flags = true ∧ 0 < names.length ∧ 64 < i + names.length := by
  induction names generalizing i with
  | nil => simp [enumMembers?]
  | cons name names ih =>
    have hstep : enumMembers? flags i (name :: names) = none ↔
        enumMember? flags i name = none ∨ enumMembers? flags (i + 1) names = none := by
      rw [enumMembers?]
      cases enumMember? flags i name with
      | none => simp
      | some member => simp
    rw [hstep, enumMember?_eq_none_iff, ih, ← and_or_left, List.length_cons]
    exact and_congr_right fun _ ↦ by omega

theorem map_shown_of_enumMembers? {e : EnumDef} {members : List EnumMember}
    (h : enumMembers? e.flags i names = some members) :
    members.map EnumMember.shown = names.mapIdx fun k name ↦ (name, e.valueAt (i + k)) := by
  induction names generalizing i members with
  | nil =>
    cases h
    rfl
  | cons name names ih =>
    obtain ⟨member, hmember, htail⟩ := Option.bind_eq_some_iff.1 h
    obtain ⟨rest, hrest, rfl⟩ := Option.map_eq_some_iff.1 htail
    rw [List.map_cons, shown_of_enumMember? hmember, ih hrest, List.mapIdx_cons]
    simp only [Nat.add_zero, Nat.add_assoc, Nat.add_comm 1]

/-! ## Heads -/

section Head

variable {m : CodeModel} {config : Config} {e : EnumDef}

theorem enumHead_eq_error_iff (hname : e.name ≠ "") {err : CodeError} :
    enumHead m config e = .error err ↔
      e.flags = true ∧ 64 < e.named.length ∧ err = .tooManyFlags e.name e.named.length := by
  have hfull : enumMembers? e.flags 0 e.named = none ↔ e.flags = true ∧ 64 < e.named.length := by
    rw [enumMembers?_eq_none_iff]
    exact and_congr_right fun _ ↦ by omega
  rw [← and_assoc, ← hfull]
  simp only [enumHead]
  split
  · next hempty => exact absurd (by simpa using hempty) hname
  · split
    · next hnone => simp [EnumDef.named, hnone, eq_comm (a := err)]
    · next hsome => simp [EnumDef.named, hsome]

theorem enumMembers?_of_enumHead {decl : EnumHead} (h : enumHead m config e = .ok decl) :
    enumMembers? e.flags 0 e.named = some decl.members := by
  simp only [enumHead] at h
  split at h
  · cases h
  · split at h
    · cases h
    · next members hmembers =>
      cases h
      exact hmembers

theorem map_shown_of_enumHead {decl : EnumHead} (h : enumHead m config e = .ok decl) :
    decl.members.map EnumMember.shown = e.named.mapIdx fun i name ↦ (name, e.valueAt i) := by
  have hmembers := map_shown_of_enumMembers? (enumMembers?_of_enumHead h)
  simpa only [Nat.zero_add] using hmembers

/-- The value of a member is a single bit, that of its place. -/
theorem exists_place_of_mem {decl : EnumHead} (h : enumHead m config e = .ok decl)
    {x : EnumMember} (hx : x ∈ decl.members) {v : UInt64} (hv : v ∈ x.flag) :
    e.flags = true ∧ ∃ i < e.named.length, v.toNat = 2 ^ i := by
  have hmem : x.shown ∈ e.named.mapIdx fun i name ↦ (name, e.valueAt i) := by
    rw [← map_shown_of_enumHead h]
    exact List.mem_map_of_mem hx
  obtain ⟨i, hi, hshown⟩ := List.mem_mapIdx.1 hmem
  have hvalue : e.valueAt i = some v.toNat := by
    rw [(Prod.mk.inj hshown).2, Option.mem_def.1 hv, Option.map_some]
  rw [EnumDef.valueAt] at hvalue
  split at hvalue
  · next hflags => exact ⟨hflags, i, hi, (Option.some.inj hvalue).symm⟩
  · cases hvalue

theorem pairwise_flag_ne {decl : EnumHead} (h : enumHead m config e = .ok decl) :
    decl.members.Pairwise fun x y ↦ ∀ v ∈ x.flag, ∀ w ∈ y.flag, v ≠ w := by
  have hvalues : (decl.members.map EnumMember.shown).Pairwise
      fun x y ↦ ∀ v ∈ x.2, ∀ w ∈ y.2, v ≠ w := by
    rw [map_shown_of_enumHead h, List.pairwise_iff_getElem]
    intro i k hi hk hlt v hv w hw
    rw [List.getElem_mapIdx, EnumDef.valueAt] at hv hw
    split at hv
    · next hflags =>
      rw [if_pos hflags] at hw
      rw [← Option.some.inj hv, ← Option.some.inj hw]
      exact Nat.ne_of_lt (Nat.pow_lt_pow_right (by decide) hlt)
    · cases hv
  refine (List.pairwise_map.1 hvalues).imp fun hxy v hv w hw heq ↦ ?_
  exact hxy _ (Option.mem_map_of_mem _ hv) _ (Option.mem_map_of_mem _ hw) (congrArg _ heq)

end Head

end Plan

/-! ## C# -/

namespace CSharp

open Plan

variable {m : CodeModel} {config : Config} {e : EnumDef} {decl : EnumHead}

/-- **An enum is declared wide from its 32nd flag on.** -/
theorem isWide_iff (h : enumHead m config e = .ok decl) :
    isWide decl = true ↔ e.flags = true ∧ 32 ≤ e.named.length := by
  have hshown : isWide decl =
      (decl.members.map EnumMember.shown).any fun x ↦ x.2.any (2 ^ 31 ≤ ·) := by
    rw [isWide, List.any_map]
    congr 1
    funext ⟨name, flag⟩
    cases flag <;> simp [EnumMember.shown, UInt64.le_iff_toNat_le]
  rw [hshown, map_shown_of_enumHead h, List.any_eq_true]
  constructor
  · rintro ⟨x, hx, hwide⟩
    obtain ⟨i, hi, rfl⟩ := List.mem_mapIdx.1 hx
    simp only [EnumDef.valueAt] at hwide
    split at hwide
    · next hflags =>
      have hle : 31 ≤ i := (Nat.pow_le_pow_iff_right (by decide)).1 (of_decide_eq_true hwide)
      exact ⟨hflags, by omega⟩
    · cases hwide
  · rintro ⟨hflags, hmany⟩
    refine ⟨_, List.mem_mapIdx.2 ⟨31, hmany, rfl⟩, ?_⟩
    simp [EnumDef.valueAt, hflags]

/-- The line of a member, given its name and its value. -/
def memberLine (name : String) (value : Option Nat) : String :=
  pascalCase name ++ (value.elim "" fun value ↦ " = " ++ toString value) ++ ","

theorem enumMember_eq (x : EnumMember) : enumMember x = memberLine x.shown.1 x.shown.2 := by
  obtain ⟨name, flag⟩ := x
  cases flag with
  | none => exact congrArg (· ++ ",") String.append_empty.symm
  | some value => exact congrArg (· ++ ",") (String.append_assoc ..)

/-- The lines of the file of an enum, each with its level, given what stands behind the name and the
lines of the members. -/
def enumLines (decl : EnumHead) (base : String) (members : List String) : List (Nat × String) :=
  [(0, "using System;"), (0, "namespace " ++ decl.namespaceName ++ " \x7b")] ++
    (describe decl.definition.description summary).map (1, ·) ++
    (if decl.flags then [(1, "[Flags]")] else []) ++
    [(1, "public enum " ++ decl.name ++ base ++ " \x7b")] ++ members.map (2, ·) ++
    [(1, "\x7d"), (0, "\x7d")]

theorem placed_enumeration (decl : EnumHead) :
    placed 0 (enumeration decl) =
      enumLines decl (if isWide decl then " : ulong" else "") (decl.members.map enumMember) := by
  have hmembers : Paired (decl.members.map fun x ↦ .line (enumMember x)) := .map_line _ _
  have hplaced : placed 2 (decl.members.map fun x ↦ .line (enumMember x)) =
      (decl.members.map enumMember).map (2, ·) := by
    rw [← placed_map_line, List.map_map]
    rfl
  have hdescription : Paired ((describe decl.definition.description summary).map .line) :=
    .map_line _ _
  have hmark : Paired (if decl.flags then [.line "[Flags]"] else []) ∧
      placed 1 (if decl.flags then [.line "[Flags]"] else []) =
        if decl.flags then [(1, "[Flags]")] else [] := by
    cases decl.flags with
    | true => exact ⟨.line _, placed_map_line 1 ["[Flags]"]⟩
    | false => exact ⟨.nil, placed_nil 1⟩
  have hfront := hdescription.append hmark.1
  rw [enumeration, placed_cons, Step.placed, Step.levelAfter,
    (hfront.append (hmembers.block _ _)).placed_block, hfront.placed_followed,
    hdescription.placed_followed, hmembers.placed_block, placed_map_line, hplaced, hmark.2]
  simp only [enumLines, List.append_assoc, List.cons_append, List.nil_append]
  rfl

/-- **The file of an enum**, with the values of its members. -/
theorem render_enumeration (h : enumHead m config e = .ok decl) :
    render (enumeration decl) =
      Page.placedText "    " (enumLines decl
        (if e.flags = true ∧ 32 ≤ e.named.length then " : ulong" else "")
        (e.named.mapIdx fun i name ↦ memberLine name (e.valueAt i))) := by
  have hmembers : decl.members.map enumMember =
      e.named.mapIdx fun i name ↦ memberLine name (e.valueAt i) := by
    calc decl.members.map enumMember
        = (decl.members.map EnumMember.shown).map fun x ↦ memberLine x.1 x.2 := by
          rw [List.map_map]
          exact List.map_congr_left fun x _ ↦ enumMember_eq x
      _ = e.named.mapIdx fun i name ↦ memberLine name (e.valueAt i) := by
          rw [map_shown_of_enumHead h, List.mapIdx_eq_zipIdx_map, List.mapIdx_eq_zipIdx_map,
            List.map_map]
          rfl
  rw [render_eq, placed_enumeration, hmembers]
  simp only [isWide_iff h]

end CSharp

/-! ## The values fit -/

namespace Plan

/-- **Flags are single bits that fit.** An enum with a name is refused exactly if its members are
combined and more than 64 of them have a name. Otherwise number `i` of them has the value `2 ^ i`,
and C# declares them as `ulong` exactly from the 32nd on. -/
theorem flags_fit_declared_type (m : CodeModel) (config : Config) (e : EnumDef)
    (hname : e.name ≠ "") :
    (∀ err, enumHead m config e = .error err ↔
      e.flags = true ∧ 64 < e.named.length ∧ err = .tooManyFlags e.name e.named.length) ∧
    ∀ decl, enumHead m config e = .ok decl →
      decl.members.map EnumMember.shown = e.named.mapIdx (fun i name ↦ (name, e.valueAt i)) ∧
      (decl.members.Pairwise fun x y ↦ ∀ v ∈ x.flag, ∀ w ∈ y.flag, v ≠ w) ∧
      (∀ x ∈ decl.members, ∀ v ∈ x.flag,
        v.toNat ≤ if e.flags = true ∧ 32 ≤ e.named.length then 2 ^ 64 - 1 else 2 ^ 31 - 1) ∧
      render (CSharp.enumeration decl) =
        Page.placedText "    " (CSharp.enumLines decl
          (if e.flags = true ∧ 32 ≤ e.named.length then " : ulong" else "")
          (e.named.mapIdx fun i name ↦ CSharp.memberLine name (e.valueAt i))) := by
  refine ⟨fun err ↦ enumHead_eq_error_iff hname, fun decl h ↦ ?_⟩
  refine ⟨map_shown_of_enumHead h, pairwise_flag_ne h, ?_, CSharp.render_enumeration h⟩
  intro x hx v hv
  obtain ⟨hflags, i, hi, hvalue⟩ := exists_place_of_mem h hx hv
  split
  · exact Nat.le_sub_one_of_lt v.toNat_lt
  · next hfew =>
    have hlt : i < 31 := by
      have : ¬32 ≤ e.named.length := fun hmany ↦ hfew ⟨hflags, hmany⟩
      omega
    rw [hvalue]
    exact Nat.le_sub_one_of_lt (Nat.pow_lt_pow_right (by decide) hlt)

/-- An enum of flags, the first of which has no name. -/
def unnamedFirstFlags (count : Nat) : EnumDef where
  name := "pennants"
  parent := 0
  flags := true
  members := "" :: List.replicate count "pennant"

/-- With 65 names there is one too many. With 32 the last is the first that does not fit a signed
value of 32 bits. -/
theorem flags_fit_unnamedFirstFlags :
    enumHead .empty {} (unnamedFirstFlags 65) = .error (.tooManyFlags "pennants" 65) ∧
      ∃ decl, enumHead .empty {} (unnamedFirstFlags 32) = .ok decl ∧
        (decl.members.map EnumMember.shown).getLast? = some ("pennant", some 2147483648) ∧
        render (CSharp.enumeration decl) =
          Page.placedText "    " (CSharp.enumLines decl " : ulong"
            ((unnamedFirstFlags 32).named.mapIdx fun i name ↦
              CSharp.memberLine name ((unnamedFirstFlags 32).valueAt i))) := by
  obtain ⟨hmany, -⟩ := flags_fit_declared_type .empty {} (unnamedFirstFlags 65) (by decide)
  obtain ⟨hfew, hplanned⟩ := flags_fit_declared_type .empty {} (unnamedFirstFlags 32) (by decide)
  refine ⟨(hmany _).2 (by decide), ?_⟩
  cases h : enumHead .empty {} (unnamedFirstFlags 32) with
  | error err =>
    obtain ⟨-, hover, -⟩ := (hfew err).1 h
    exact absurd hover (by decide)
  | ok decl =>
    obtain ⟨hshown, -, -, htext⟩ := hplanned decl h
    refine ⟨decl, rfl, ?_, ?_⟩
    · rw [hshown]
      decide
    · rw [htext, if_pos (by decide)]

end Plan

end ApiScribe
