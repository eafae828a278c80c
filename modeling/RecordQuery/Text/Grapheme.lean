import RecordQuery.Text.GraphemeRole

/-! # Grapheme clusters

The cut of a text into what readers take for single characters, by the rules for extended grapheme
clusters. A text is read once from its beginning: what a cluster ends in decides whether the next
character still belongs to it. Nothing is lost by the cut: the clusters make up the text.
-/

namespace RecordQuery.Text

/-- What a cluster ends in, as far as the next character depends on it. A consonant with its marks is
linked if a linker is among them, and a pictograph with its marks is joined if a joiner ends them. -/
inductive GraphemeEnd where
  | carriageReturn
  | control
  | prepended
  | leading
  | vowel
  | trailing
  | regional
  | consonant (linked : Bool)
  | pictograph (joined : Bool)
  | other
deriving DecidableEq, Repr

namespace GraphemeEnd

/-- What a cluster of one character ends in. -/
def ofRole : GraphemeRole → GraphemeEnd
  | .carriageReturn => carriageReturn
  | .lineFeed | .control => control
  | .prepended => prepended
  | .leading => leading
  | .vowel | .openSyllable => vowel
  | .trailing | .closedSyllable => trailing
  | .regional => regional
  | .consonant => consonant false
  | .pictograph => pictograph false
  | .extending | .linker | .nonJoiner | .joiner | .spacing | .other => other

/-- What a cluster ends in behind a mark that joins every cluster. -/
def mark : GraphemeEnd → GraphemeRole → GraphemeEnd
  | consonant linked, .extending | consonant linked, .joiner => consonant linked
  | consonant _, .linker => consonant true
  | pictograph false, .joiner => pictograph true
  | pictograph false, .extending | pictograph false, .linker | pictograph false, .nonJoiner =>
    pictograph false
  | _, _ => other

/-- What the cluster ends in with one more character, if the character belongs to it. -/
def join? : GraphemeEnd → GraphemeRole → Option GraphemeEnd
  | carriageReturn, .lineFeed => some control
  | carriageReturn, _ | control, _ => none
  | _, .carriageReturn | _, .lineFeed | _, .control => none
  | last, .extending => some (last.mark .extending)
  | last, .linker => some (last.mark .linker)
  | last, .nonJoiner => some (last.mark .nonJoiner)
  | last, .joiner => some (last.mark .joiner)
  | last, .spacing => some (last.mark .spacing)
  | prepended, role => some (ofRole role)
  | consonant true, .consonant => some (consonant false)
  | pictograph true, .pictograph => some (pictograph false)
  | regional, .regional => some other
  | leading, .leading => some leading
  | leading, .vowel | leading, .openSyllable => some vowel
  | leading, .closedSyllable => some trailing
  | vowel, .vowel => some vowel
  | vowel, .trailing | trailing, .trailing => some trailing
  | _, _ => none

end GraphemeEnd

/-- The rest of a cluster that ends in `last` so far, and the clusters behind it. -/
def graphemesFrom (last : GraphemeEnd) : List Char → List Char × List (List Char)
  | [] => ([], [])
  | character :: rest =>
    let role := GraphemeRole.ofChar character
    match last.join? role with
    | some next =>
      let (cluster, clusters) := graphemesFrom next rest
      (character :: cluster, clusters)
    | none =>
      let (cluster, clusters) := graphemesFrom (.ofRole role) rest
      ([], (character :: cluster) :: clusters)

/-- The grapheme clusters of characters. -/
def graphemes : List Char → List (List Char)
  | [] => []
  | character :: rest =>
    let (cluster, clusters) := graphemesFrom (.ofRole (.ofChar character)) rest
    (character :: cluster) :: clusters

theorem flatten_graphemesFrom (last : GraphemeEnd) (characters : List Char) :
    (graphemesFrom last characters).1 ++ (graphemesFrom last characters).2.flatten = characters := by
  induction characters generalizing last with
  | nil => rfl
  | cons character rest ih =>
    rw [graphemesFrom]
    split
    · simpa using ih _
    · simpa using ih _

/-- The clusters make up the characters. -/
theorem flatten_graphemes (characters : List Char) : (graphemes characters).flatten = characters := by
  cases characters with
  | nil => rfl
  | cons character rest => simpa [graphemes] using flatten_graphemesFrom _ rest

end RecordQuery.Text
