import ApiScribe.Request.Error
import ApiScribe.Text.Ascii
import ApiScribe.Text.Blank

/-!
# Media types

A content type is a media type, with parameters after a semicolon that do not matter here. Only JSON
can be written.
-/

namespace ApiScribe.MediaType

def json : String := "application/json"

/-- Bytes without a known meaning. -/
def binary : String := "application/octet-stream"

/-- The media type of a content type: the part before its parameters, without blanks around it. -/
def essence (contentType : String) : String :=
  Text.trim (String.ofList (contentType.toList.takeWhile (· != ';')))

/-- Refuses a content type that is not JSON. -/
def check (contentType : String) : Except RequestError Unit :=
  if (essence contentType).isEmpty then .error .emptyContentType
  else if Text.asciiCaseEq (essence contentType) json then .ok ()
  else .error (.unsupportedContentType contentType)

end ApiScribe.MediaType
