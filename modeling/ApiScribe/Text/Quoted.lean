/-!
# Quoted literals

Texts that go into generated programs are written as string literals. A double-quoted literal
escapes the quotation mark, the backslash and the line feed; a single-quoted one escapes the
apostrophe only.
-/

namespace ApiScribe.Text

/-- One character inside a double-quoted literal. -/
def quoteChar (c : Char) : List Char :=
  if c = '"' then ['\\', '"']
  else if c = '\\' then ['\\', '\\']
  else if c = '\n' then ['\\', 'n']
  else [c]

/-- The text as a double-quoted literal. -/
def quote (s : String) : String :=
  String.ofList ('"' :: (s.toList.flatMap quoteChar ++ ['"']))

/-- One character inside a single-quoted literal. -/
def quoteSingleChar (c : Char) : List Char :=
  if c = '\'' then ['\\', '\''] else [c]

def quoteSingle (s : String) : String :=
  String.ofList ('\'' :: (s.toList.flatMap quoteSingleChar ++ ['\'']))

@[simp] theorem toList_quote (s : String) :
    (quote s).toList = '"' :: (s.toList.flatMap quoteChar ++ ['"']) := by
  simp [quote]

end ApiScribe.Text
