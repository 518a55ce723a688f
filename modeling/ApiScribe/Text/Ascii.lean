/-!
# ASCII letter case

Names of types, media types, headers and languages are compared without regard to the case of the
26 ASCII letters; all other characters only equal themselves.
-/

namespace ApiScribe.Text

/-- The text with every ASCII capital replaced by its small letter. -/
def asciiLower (s : String) : String :=
  String.ofList (s.toList.map Char.toLower)

/-- Whether two texts are equal up to the case of ASCII letters. -/
def asciiCaseEq (s t : String) : Bool :=
  asciiLower s == asciiLower t

theorem asciiCaseEq_iff {s t : String} : asciiCaseEq s t = true ↔ asciiLower s = asciiLower t := by
  simp [asciiCaseEq]

@[simp] theorem asciiCaseEq_self (s : String) : asciiCaseEq s s = true := by
  simp [asciiCaseEq]

@[simp] theorem toList_asciiLower (s : String) :
    (asciiLower s).toList = s.toList.map Char.toLower := by
  simp [asciiLower]

end ApiScribe.Text
