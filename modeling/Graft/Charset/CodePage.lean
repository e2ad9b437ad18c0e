import Graft.Text.Utf8

/-!
# Graft.Charset.CodePage

Charsets of one byte per character that agree with ASCII below `0x80`. A code page lists the
characters of the bytes from `0x80` on; U+FFFD stands where a byte has none.

* `CodePage`: such a list.
* `CodePage.decode`: a text in the code page, as UTF-8.
-/

namespace Graft.Charset

/-- The characters of the bytes `0x80`–`0xFF`, in order. -/
structure CodePage where
  upper : List Char

namespace CodePage

def char (p : CodePage) (b : UInt8) : Char :=
  if b < 0x80 then Char.ofNat b.toNat else p.upper.getD (b.toNat - 0x80) Utf8.replacement

def ofUpper (rows : List String) : CodePage := ⟨rows.flatMap String.toList⟩

/-- A code page that agrees with the first code points also on the controls `0x80`–`0x9F`. -/
def ofPrintable (rows : List String) : CodePage :=
  ⟨(List.range 0x20).map (fun i => Char.ofNat (0x80 + i)) ++ rows.flatMap String.toList⟩

def decode (p : CodePage) (s : Bytes) : Bytes := Utf8.encodeAll (s.map p.char)

def iso88595 : CodePage := ofPrintable [
  "\u00A0ЁЂЃЄЅІЇЈЉЊЋЌ\u00ADЎЏ",
  "АБВГДЕЖЗИЙКЛМНОП",
  "РСТУФХЦЧШЩЪЫЬЭЮЯ",
  "абвгдежзийклмноп",
  "рстуфхцчшщъыьэюя",
  "№ёђѓєѕіїјљњћќ§ўџ"
]

def iso88596 : CodePage := ofPrintable [
  "\u00A0\uFFFD\uFFFD\uFFFD¤\uFFFD\uFFFD\uFFFD",
  "\uFFFD\uFFFD\uFFFD\uFFFD\u060C\u00AD\uFFFD\uFFFD",
  "\uFFFD\uFFFD\uFFFD\uFFFD\uFFFD\uFFFD\uFFFD\uFFFD",
  "\uFFFD\uFFFD\uFFFD\u061B\uFFFD\uFFFD\uFFFD\u061F",
  "\uFFFD\u0621\u0622\u0623\u0624\u0625\u0626\u0627",
  "\u0628\u0629\u062A\u062B\u062C\u062D\u062E\u062F",
  "\u0630\u0631\u0632\u0633\u0634\u0635\u0636\u0637",
  "\u0638\u0639\u063A\uFFFD\uFFFD\uFFFD\uFFFD\uFFFD",
  "\u0640\u0641\u0642\u0643\u0644\u0645\u0646\u0647",
  "\u0648\u0649\u064A\u064B\u064C\u064D\u064E\u064F",
  "\u0650\u0651\u0652\uFFFD\uFFFD\uFFFD\uFFFD\uFFFD",
  "\uFFFD\uFFFD\uFFFD\uFFFD\uFFFD\uFFFD\uFFFD\uFFFD"
]

def iso88597 : CodePage := ofPrintable [
  "\u00A0‘’£€₯¦§¨©ͺ«¬\u00AD\uFFFD―",
  "°±²³΄΅Ά·ΈΉΊ»Ό½ΎΏ",
  "ΐΑΒΓΔΕΖΗΘΙΚΛΜΝΞΟ",
  "ΠΡ\uFFFDΣΤΥΦΧΨΩΪΫάέήί",
  "ΰαβγδεζηθικλμνξο",
  "πρςστυφχψωϊϋόύώ\uFFFD"
]

def iso88598 : CodePage := ofPrintable [
  "\u00A0\uFFFD¢£¤¥¦§",
  "¨©×«¬\u00AD®¯",
  "°±²³´µ¶·",
  "¸¹÷»¼½¾\uFFFD",
  "\uFFFD\uFFFD\uFFFD\uFFFD\uFFFD\uFFFD\uFFFD\uFFFD",
  "\uFFFD\uFFFD\uFFFD\uFFFD\uFFFD\uFFFD\uFFFD\uFFFD",
  "\uFFFD\uFFFD\uFFFD\uFFFD\uFFFD\uFFFD\uFFFD\uFFFD",
  "\uFFFD\uFFFD\uFFFD\uFFFD\uFFFD\uFFFD\uFFFD‗",
  "\u05D0\u05D1\u05D2\u05D3\u05D4\u05D5\u05D6\u05D7",
  "\u05D8\u05D9\u05DA\u05DB\u05DC\u05DD\u05DE\u05DF",
  "\u05E0\u05E1\u05E2\u05E3\u05E4\u05E5\u05E6\u05E7",
  "\u05E8\u05E9\u05EA\uFFFD\uFFFD\u200E\u200F\uFFFD"
]

def koi8r : CodePage := ofUpper [
  "─│┌┐└┘├┤┬┴┼▀▄█▌▐",
  "░▒▓⌠■∙√≈≤≥\u00A0⌡°²·÷",
  "═║╒ё╓╔╕╖╗╘╙╚╛╜╝╞",
  "╟╠╡Ё╢╣╤╥╦╧╨╩╪╫╬©",
  "юабцдефгхийклмно",
  "пярстужвьызшэщчъ",
  "ЮАБЦДЕФГХИЙКЛМНО",
  "ПЯРСТУЖВЬЫЗШЭЩЧЪ"
]

def windows1251 : CodePage := ofUpper [
  "ЂЃ‚ѓ„…†‡€‰Љ‹ЊЌЋЏ",
  "ђ‘’“”•–—\uFFFD™љ›њќћџ",
  "\u00A0ЎўЈ¤Ґ¦§Ё©Є«¬\u00AD®Ї",
  "°±Ііґµ¶·ё№є»јЅѕї",
  "АБВГДЕЖЗИЙКЛМНОП",
  "РСТУФХЦЧШЩЪЫЬЭЮЯ",
  "абвгдежзийклмноп",
  "рстуфхцчшщъыьэюя"
]

def windows1252 : CodePage := ofUpper [
  "€\uFFFD‚ƒ„…†‡ˆ‰Š‹Œ\uFFFDŽ\uFFFD",
  "\uFFFD‘’“”•–—˜™š›œ\uFFFDžŸ",
  "\u00A0¡¢£¤¥¦§¨©ª«¬\u00AD®¯",
  "°±²³´µ¶·¸¹º»¼½¾¿",
  "ÀÁÂÃÄÅÆÇÈÉÊËÌÍÎÏ",
  "ÐÑÒÓÔÕÖ×ØÙÚÛÜÝÞß",
  "àáâãäåæçèéêëìíîï",
  "ðñòóôõö÷øùúûüýþÿ"
]

def windows1253 : CodePage := ofUpper [
  "€\uFFFD‚ƒ„…†‡\uFFFD‰\uFFFD‹\uFFFD\uFFFD\uFFFD\uFFFD",
  "\uFFFD‘’“”•–—\uFFFD™\uFFFD›\uFFFD\uFFFD\uFFFD\uFFFD",
  "\u00A0΅Ά£¤¥¦§¨©\uFFFD«¬\u00AD®―",
  "°±²³΄µ¶·ΈΉΊ»Ό½ΎΏ",
  "ΐΑΒΓΔΕΖΗΘΙΚΛΜΝΞΟ",
  "ΠΡ\uFFFDΣΤΥΦΧΨΩΪΫάέήί",
  "ΰαβγδεζηθικλμνξο",
  "πρςστυφχψωϊϋόύώ\uFFFD"
]

def windows1254 : CodePage := ofUpper [
  "€\uFFFD‚ƒ„…†‡ˆ‰Š‹Œ\uFFFD\uFFFD\uFFFD",
  "\uFFFD‘’“”•–—˜™š›œ\uFFFD\uFFFDŸ",
  "\u00A0¡¢£¤¥¦§¨©ª«¬\u00AD®¯",
  "°±²³´µ¶·¸¹º»¼½¾¿",
  "ÀÁÂÃÄÅÆÇÈÉÊËÌÍÎÏ",
  "ĞÑÒÓÔÕÖ×ØÙÚÛÜİŞß",
  "àáâãäåæçèéêëìíîï",
  "ğñòóôõö÷øùúûüışÿ"
]

def windows1255 : CodePage := ofUpper [
  "€\uFFFD‚ƒ„…†‡",
  "ˆ‰\uFFFD‹\uFFFD\uFFFD\uFFFD\uFFFD",
  "\uFFFD‘’“”•–—",
  "˜™\uFFFD›\uFFFD\uFFFD\uFFFD\uFFFD",
  "\u00A0¡¢£₪¥¦§",
  "¨©×«¬\u00AD®¯",
  "°±²³´µ¶·",
  "¸¹÷»¼½¾¿",
  "\u05B0\u05B1\u05B2\u05B3\u05B4\u05B5\u05B6\u05B7",
  "\u05B8\u05B9\u05BA\u05BB\u05BC\u05BD\u05BE\u05BF",
  "\u05C0\u05C1\u05C2\u05C3\u05F0\u05F1\u05F2\u05F3",
  "\u05F4\uFFFD\uFFFD\uFFFD\uFFFD\uFFFD\uFFFD\uFFFD",
  "\u05D0\u05D1\u05D2\u05D3\u05D4\u05D5\u05D6\u05D7",
  "\u05D8\u05D9\u05DA\u05DB\u05DC\u05DD\u05DE\u05DF",
  "\u05E0\u05E1\u05E2\u05E3\u05E4\u05E5\u05E6\u05E7",
  "\u05E8\u05E9\u05EA\uFFFD\uFFFD\u200E\u200F\uFFFD"
]

def windows1256 : CodePage := ofUpper [
  "€\u067E‚ƒ„…†‡",
  "ˆ‰\u0679‹Œ\u0686\u0698\u0688",
  "\u06AF‘’“”•–—",
  "\u06A9™\u0691›œ\u200C\u200D\u06BA",
  "\u00A0\u060C¢£¤¥¦§",
  "¨©\u06BE«¬\u00AD®¯",
  "°±²³´µ¶·",
  "¸¹\u061B»¼½¾\u061F",
  "\u06C1\u0621\u0622\u0623\u0624\u0625\u0626\u0627",
  "\u0628\u0629\u062A\u062B\u062C\u062D\u062E\u062F",
  "\u0630\u0631\u0632\u0633\u0634\u0635\u0636×",
  "\u0637\u0638\u0639\u063A\u0640\u0641\u0642\u0643",
  "à\u0644â\u0645\u0646\u0647\u0648ç",
  "èéêë\u0649\u064Aîï",
  "\u064B\u064C\u064D\u064Eô\u064F\u0650÷",
  "\u0651ù\u0652ûü\u200E\u200F\u06D2"
]

end CodePage

end Graft.Charset
