import ChatLink.Value.Literal

namespace ChatLink.Secret

/-- Capital letters and digits of ASCII are kept, small letters become capital, and everything else
is dropped. -/
def normalizeText (secret : String) : String :=
  .ofList ((secret.toList.filter Char.isAlphanum).map Char.toUpper)

theorem normalizeText_append (s t : String) :
    normalizeText (s ++ t) = normalizeText s ++ normalizeText t := by
  simp [normalizeText, String.ofList_append]

def normalize (secret : Value) : String := normalizeText secret.plain

end ChatLink.Secret
