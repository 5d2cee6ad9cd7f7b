/-
The banner with which a boot program answers the version probe: the
payload up to its first zero byte, read as text however damaged, with
blanks trimmed from both ends.
-/
import FlashLink.Text.Blank
import FlashLink.Text.Utf8

namespace FlashLink.Banner

/-- The text of a banner payload. -/
def text (payload : Bytes) : String :=
  String.ofList (Blank.trim (Utf8.lossy (payload.takeWhile (· != 0))))

end FlashLink.Banner
