import WorkWatch.Text.Control

/-! Control sequences are left out from left to right. A sequence does not go on behind a letter, so
that the end of a text stays as it is, whatever comes before. -/

namespace WorkWatch.Text

namespace Control

end Control

end WorkWatch.Text
