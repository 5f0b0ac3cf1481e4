import TaintFlow.Text

/-!
# Common words in names

The words that names of characters have most often. The tables of names write them in small letters:
the first of them as `a`, `b` and so on to `z`, and the others as `aa`, `ab` and so on.
-/

namespace TaintFlow.CharacterName

/-- The common words, with blanks between them. -/
def commonLines : List String :=
  ["LETTER WITH CAPITAL SMALL FORM ARROW RIGHT SIGN ABOVE ISOLATED RIGHTWARDS LEFT DOUBLE VERTICAL",
   "BELOW AND FINAL LEFTWARDS THREE HORIZONTAL INITIAL STROKE TRIANGLE-HEADED BLACK SYMBOL WHITE",
   "MIDDLE DOWNWARDS HUNDRED THOUSAND BRACKET CIRCUMFLEX TRIANGLE MARK CIRCLE WEST-CREE",
   "GREATER-THAN SQUARE HEAVY DIAERESIS ARROWHEAD EIGHT LOWER UPWARDS REVERSED TIMES FOUR SEVEN",
   "HOOK RIGHT-POINTING FIVE LESS-THAN UPPER YPOGEGRAMMENI INVERTED PERISPOMENI PUNCTUATION",
   "POINTING HALF MEDIUM QUADRANT PARENTHESIS MEDIAL ONE LEFT-POINTING VOWEL TWO DIGIT LIGHT",
   "MAKSURA TURNED ANUSVARA DIAGONAL INDEX PROSGEGRAMMENI EQUAL QUARTER VOCALIC CENTRE ORNAMENT",
   "ROTATED TILDE BLOCK MEEM DOT COMBINING NINE PLUS SINGLE RETROFLEX DESCENDER FACE ACUTE",
   "CANDRABINDU DOWN HARPOON ASTERISK CIRCLED DEGREES OPERATOR MACRON NUMBER DOTS THUMB OVER DASIA",
   "PSILI EXCLAMATION ALEF DOWN-POINTING LARGE LITTLE BOTTOM SEPARATOR EQUILATERAL GRAVE",
   "UP-POINTING QUOTATION RING DIAMOND ZERO LIGATURE MODIFIER TRIPLE BARB OPEN VISARGA HAND-FIST",
   "ANTICLOCKWISE MOVEMENT-FLOORPLANE VARIA CONSONANT ABBREVIATION COMMA CROSSING",
   "MOVEMENT-WALLPLANE SANS-SERIF POINTED SQUARED VIRAMA ALTERNATE CLOSED LINE QUESTION TRIANGULAR",
   "BREVE CHESS SEVENTY JEEM SIX LONG SHORT TONE INTERSECTION TWENTY LATIN ANGLE HIGH ALTERNATING",
   "ACCENT BAR HITTING STRAIGHT DOTTED NINETY SIXTEENTH STOP SECTION CORNER HAND-CIRCLE NORTH",
   "UNDERBAR C-SIMPLIFIED CEDILLA KNIGHT PALATAL RIGHT-FACING CROSS SUPERSET EQUALS HAND-HINGE",
   "DIGRAPH GLOTTAL IDEOGRAPHIC UPSILON YENISEI CARON QUARTERS SOUTH EAST LEFT-FACING EPSILON OXIA",
   "MULTIPLICATION NEUTRAL CONJOINED STAR YEH FINGERS OVERLAY SOLIDUS CHARACTER EQUIVALENT ORKHON",
   "OMEGA DOUBLE-STRUCK TAIL WEST ARCHAION EIGHTH FRACTION INTEGRAL RAISED SUPERSCRIPT KHAH DANDA",
   "HAMZA REVERSE SLANTED VARIANT FULL GUNU CYRILLIC SYLLABLE TORTOISE SUBSET ALPHA AVAGRAHA",
   "COPTIC FIFTY LOW MOUTH NEGATIVE ARCHAIC COLON HEART SCRIPT DIALYTIKA ARABIC-INDIC HAH IOTIFIED",
   "SMILING TTHA CRYPTOGRAMMIC DAGESH HAND-ANGLE TABULATION DASH DDHA FORWARD INSULAR OMICRON",
   "CLOCKWISE THIRTY TEN TENU MAHAAPRAANA ARABIC BETWEEN BYELORUSSIAN-UKRAINIAN CROSSED-TAIL",
   "SIMALUNGUN TWO-HEADED NGA SHA DIAMONDS TEARDROP-SPOKED JUSTIFIED SEMICOLON TELEPHONE FROM NOON",
   "CURLY NUKTA SIGMA ALPAPRAANA GREEK INSIDE MULTIPLE PRECEDES SHADOWED SUCCEEDS THETA VERTICALLY",
   "CHA EIGHTHS KHA NYA OBLIQUE QUADRUPLE SHELL HORN LENGTH PERSON ROTATION-FLOORPLANE SPOKED HAND",
   "NOTEHEAD SPACE TACK DOTLESS THA THROUGH TOP APOSTROPHE CHARACTERS CONTAINING HEARTS LENTICULAR",
   "ROTATION-WALLPLANE GAMMA INDEPENDENT ITERATION LEFT-STEM SHAFT ALMOST ARROWS BISHOP CANDRA",
   "CIRCLES CROSSED HINGED IOTA KATAKANA KATAKANA-HIRAGANA LOGICAL"]

/-- The common words in the order of their short forms. -/
def commonWords : Array (List Char) :=
  ((commonLines.flatMap (Text.split ' ')).map String.toList).toArray

/-- The number of a small letter. -/
def letterNumber? (c : Char) : Option Nat := if c.isLower then some (c.toNat - 'a'.toNat) else none

/-- The word that a text writes. -/
def wordOf (text : List Char) : List Char :=
  let place : Option Nat :=
    match text with
    | [a] => letterNumber? a
    | [a, b] => do return 26 + 26 * (← letterNumber? a) + (← letterNumber? b)
    | _ => none
  (place.bind fun i => commonWords[i]?).getD text

end TaintFlow.CharacterName
