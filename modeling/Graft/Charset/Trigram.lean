import Graft.Text.Bytes

/-!
# Graft.Charset.Trigram

The most frequent runs of three letters of some languages, in lower case; a blank stands for the
border of a word. Which of them a text holds tells its language, and with it its charset.
-/

namespace Graft.Charset.Trigram

def english : List String := [
  " a ", " an", " be", " co", " fo", " ha", " he", " in", " ma", " of", " pr", " re", " sa",
  " st", " th", " to", " wh", "aid", "al ", "an ", "and", "as ", "at ", "ate", "ati", "d a",
  "d t", "e a", "e s", "e t", "ed ", "ent", "er ", "es ", "for", "hat", "he ", "her", "id ",
  "in ", "ing", "ion", "is ", "n a", "n t", "nd ", "ng ", "nt ", "of ", "on ", "or ", "re ",
  "rs ", "s a", "s t", "sai", "st ", "t t", "ter", "tha", "the", "tio", "to ", "ts "
]

def danish : List String := [
  " af", " at", " de", " en", " er", " fo", " ha", " i ", " me", " og", " på", " si", " st",
  " ti", " vi", "af ", "an ", "and", "ar ", "at ", "de ", "den", "der", "det", "e s", "ed ",
  "ede", "en ", "end", "er ", "ere", "es ", "et ", "for", "ge ", "gen", "ger", "ige", "il ",
  "ing", "ke ", "kke", "ler", "lig", "lle", "med", "nde", "ne ", "ng ", "nge", "og ", "om ",
  "or ", "på ", "r d", "r e", "r s", "re ", "ste", "t s", "te ", "ter", "til", "ver"
]

def german : List String := [
  " an", " au", " be", " da", " de", " di", " ei", " ge", " ha", " in", " mi", " sc", " se",
  " un", " ve", " vo", " we", " zu", "ber", "ch ", "che", "cht", "das", "den", "der", "die",
  "e d", "e s", "ein", "eit", "en ", "er ", "es ", "gen", "hen", "ht ", "ich", "ie ", "in ",
  "ine", "it ", "lic", "lle", "n a", "n d", "n s", "nd ", "nde", "ne ", "ng ", "nge", "nte",
  "r d", "rde", "rei", "sch", "ste", "t d", "te ", "ten", "ter", "und", "ung", "ver"
]

def spanish : List String := [
  " a ", " ca", " co", " de", " el", " en", " es", " in", " la", " lo", " pa", " po", " pr",
  " qu", " re", " se", " un", " y ", "a c", "a d", "a e", "a l", "a p", "aci", "ado", "al ",
  "ar ", "as ", "ció", "con", "de ", "del", "do ", "e d", "e e", "e l", "el ", "en ", "ent",
  "es ", "est", "ien", "ión", "la ", "los", "n e", "nte", "o d", "o e", "on ", "or ", "os ",
  "par", "que", "ra ", "res", "s d", "s e", "s p", "se ", "te ", "to ", "ue ", "ón "
]

def french : List String := [
  " au", " co", " da", " de", " du", " en", " et", " la", " le", " pa", " po", " pr", " qu",
  " se", " so", " un", " à ", "ant", "ati", "ce ", "con", "de ", "des", "du ", "e a", "e c",
  "e d", "e e", "e l", "e p", "e s", "en ", "ent", "er ", "es ", "et ", "eur", "ion", "is ",
  "it ", "la ", "le ", "les", "men", "n d", "ne ", "ns ", "nt ", "on ", "ont", "our", "que",
  "r l", "re ", "s a", "s d", "s e", "s l", "s p", "t d", "te ", "tio", "ue ", "ur "
]

def italian : List String := [
  " al", " ch", " co", " de", " di", " e ", " il", " in", " la", " pe", " pr", " un", "a c",
  "a d", "a p", "a s", "ato", "che", "con", "del", "di ", "e a", "e c", "e d", "e i", "e l",
  "e p", "e s", "el ", "ell", "ent", "er ", "he ", "i a", "i c", "i d", "i s", "ia ", "il ",
  "in ", "ion", "la ", "le ", "li ", "lla", "ne ", "ni ", "no ", "nte", "o a", "o d", "o i",
  "o s", "on ", "one", "per", "ra ", "re ", "si ", "ta ", "te ", "ti ", "to ", "zio"
]

def dutch : List String := [
  " al", " be", " da", " de", " di", " ee", " en", " ge", " he", " in", " ma", " me", " op",
  " te", " va", " ve", " vo", " we", " zi", "aan", "aar", "an ", "and", "ar ", "at ", "cht",
  "de ", "den", "der", "e b", "e v", "een", "eer", "en ", "er ", "ers", "et ", "gen", "het",
  "ie ", "in ", "ing", "is ", "n b", "n d", "n e", "n h", "n o", "n v", "nde", "ng ", "ond",
  "oor", "op ", "or ", "sch", "ste", "t d", "te ", "ten", "ter", "van", "ver", "voo"
]

def norwegian : List String := [
  " at", " av", " de", " en", " er", " fo", " ha", " i ", " me", " og", " på", " se", " sk",
  " so", " st", " ti", " vi", " å ", "and", "ar ", "at ", "de ", "den", "det", "e s", "ed ",
  "en ", "ene", "er ", "ere", "et ", "ett", "for", "gen", "ikk", "il ", "ing", "ke ", "kke",
  "le ", "lle", "med", "men", "n s", "ne ", "ng ", "nge", "nne", "og ", "om ", "or ", "på ",
  "r s", "re ", "som", "ste", "t s", "te ", "ten", "ter", "til", "tt ", "tte", "ver"
]

def portuguese : List String := [
  " a ", " co", " da", " de", " do", " e ", " es", " ma", " no", " o ", " pa", " po", " pr",
  " qu", " re", " se", " um", "a a", "a c", "a d", "a p", "ade", "ado", "al ", "ar ", "ara",
  "as ", "com", "con", "da ", "de ", "do ", "dos", "e a", "e d", "em ", "ent", "es ", "est",
  "ia ", "ica", "men", "nte", "nto", "o a", "o c", "o d", "o e", "o p", "os ", "par", "que",
  "ra ", "res", "s a", "s d", "s e", "s p", "sta", "te ", "to ", "ue ", "ão ", "ção"
]

def swedish : List String := [
  " at", " av", " de", " en", " fö", " ha", " i ", " in", " ko", " me", " oc", " på", " sk",
  " so", " st", " ti", " va", " vi", " är", "ade", "an ", "and", "ar ", "att", "ch ", "de ",
  "den", "der", "det", "ed ", "en ", "er ", "et ", "för", "gen", "ill", "ing", "ka ", "ll ",
  "med", "n s", "na ", "nde", "ng ", "nge", "nin", "och", "om ", "on ", "på ", "r a", "r s",
  "ra ", "ska", "som", "t s", "ta ", "te ", "ter", "til", "tt ", "var", "är ", "ör "
]

def russian : List String := [
  " в ", " во", " до", " за", " и ", " ка", " ко", " на", " не", " об", " по", " пр", " ра",
  " со", " ст", " то", " чт", " эт", "ани", "ать", "го ", "ель", "ени", "ест", "ет ", "и п",
  "ие ", "ии ", "ия ", "лен", "ли ", "льн", "на ", "не ", "ние", "ния", "но ", "нов", "о в",
  "о п", "о с", "ов ", "ова", "ого", "ой ", "оль", "ом ", "ост", "пол", "пре", "при", "про",
  "рав", "ред", "ста", "ств", "сти", "ся ", "тел", "то ", "тор", "ть ", "что", "ых "
]

def arabic : List String := [
  " \u0627\u0644", " \u0627\u0646", " \u0628\u0627", " \u0639\u0644", " \u0641\u064A",
  " \u0644\u0644", " \u0645\u0646", " \u0648\u0627", "\u0627 \u0627", "\u0627\u0621 ",
  "\u0627\u062A ", "\u0627\u0631 ", "\u0627\u0644 ", "\u0627\u0644\u0623", "\u0627\u0644\u0627",
  "\u0627\u0644\u0628", "\u0627\u0644\u062A", "\u0627\u0644\u062C", "\u0627\u0644\u062D",
  "\u0627\u0644\u062F", "\u0627\u0644\u0633", "\u0627\u0644\u0639", "\u0627\u0644\u0642",
  "\u0627\u0644\u0645", "\u0627\u0644\u0648", "\u0627\u0644\u064A", "\u0627\u0645 ",
  "\u0627\u0646 ", "\u0627\u0646\u062A", "\u0628 \u0627", "\u0629 \u0627", "\u0629 \u0641",
  "\u0629 \u0644", "\u0629 \u0645", "\u0629 \u0648", "\u062A \u0627", "\u062F \u0627",
  "\u062F\u0629 ", "\u0631 \u0627", "\u0631\u0629 ", "\u0633 \u0627", "\u0639 \u0627",
  "\u0639\u0644\u0649", "\u0641\u064A ", "\u0644 \u0627", "\u0644\u0629 ", "\u0644\u0649 ",
  "\u0644\u064A ", "\u0645 \u0627", "\u0645\u0627 ", "\u0645\u0629 ", "\u0645\u0646 ",
  "\u0646 \u0627", "\u0647 \u0627", "\u0647\u0627 ", "\u0648\u0627\u0644", "\u0648\u0646 ",
  "\u0649 \u0627", "\u064A \u0627", "\u064A \u0645", "\u064A \u0648", "\u064A\u0629 ",
  "\u064A\u0631 ", "\u064A\u0646 "
]

def greek : List String := [
  " αν", " απ", " γι", " δι", " επ", " η ", " κα", " με", " να", " ο ", " πα", " πο", " πρ",
  " στ", " συ", " τη", " το", "ία ", "α α", "α τ", "αι ", "αν ", "από", "ας ", "για", "ει ",
  "ες ", "η τ", "ην ", "ης ", "ι τ", "ια ", "ική", "ις ", "και", "κατ", "με ", "ν α", "ν ε",
  "ν π", "να ", "ος ", "ου ", "που", "προ", "πό ", "ς α", "ς ε", "ς κ", "ς π", "ς τ", "σε ",
  "ση ", "στο", "τα ", "ται", "την", "της", "τικ", "το ", "του", "των", "ων ", "ών "
]

/-- Hebrew, in the order it is read. -/
def hebrew : List String := [
  " \u05D0\u05D5", " \u05D0\u05D7", " \u05D0\u05D9", " \u05D0\u05EA", " \u05D1\u05D9",
  " \u05D1\u05DE", " \u05D4\u05D0", " \u05D4\u05D5", " \u05D4\u05D9", " \u05D4\u05DE",
  " \u05D4\u05E2", " \u05D4\u05E9", " \u05D4\u05EA", " \u05DC\u05D0", " \u05DC\u05D4",
  " \u05DE\u05D0", " \u05E2\u05DC", " \u05E9\u05DC", "\u05D0\u05EA ", "\u05D4 \u05D0",
  "\u05D4 \u05D1", "\u05D4 \u05D4", "\u05D4 \u05DC", "\u05D4 \u05DE", "\u05D4 \u05E9",
  "\u05D4\u05D5\u05D0", "\u05D5\u05D0 ", "\u05D5\u05DD ", "\u05D5\u05DF ", "\u05D5\u05E8 ",
  "\u05D5\u05EA ", "\u05D9 \u05D4", "\u05D9\u05D4 ", "\u05D9\u05D5\u05EA", "\u05D9\u05D9\u05DD",
  "\u05D9\u05DD ", "\u05D9\u05DF ", "\u05D9\u05E8 ", "\u05D9\u05EA ", "\u05DC \u05D0",
  "\u05DC \u05D4", "\u05DC\u05D0 ", "\u05DC\u05D4 ", "\u05DD \u05D0", "\u05DD \u05D1",
  "\u05DD \u05D4", "\u05DD \u05DC", "\u05DD \u05DE", "\u05DD \u05E9", "\u05DE\u05D4 ",
  "\u05DF \u05D4", "\u05E0\u05D4 ", "\u05E0\u05D9 ", "\u05E0\u05D9\u05DD", "\u05E2\u05DC ",
  "\u05E8 \u05D4", "\u05E8\u05D9\u05DD", "\u05E9\u05DC ", "\u05EA \u05D0", "\u05EA \u05D1",
  "\u05EA \u05D4", "\u05EA \u05DC", "\u05EA \u05DE", "\u05EA \u05E9"
]

/-- Hebrew, in the order it is seen from the left. -/
def visualHebrew : List String := [
  " \u05D0\u05D5", " \u05D0\u05DC", " \u05D4\u05D9", " \u05D4\u05DC", " \u05D4\u05DE",
  " \u05D4\u05E0", " \u05D9\u05E0", " \u05DC\u05E2", " \u05DC\u05E9", " \u05DD\u05D5",
  " \u05DD\u05D9", " \u05DF\u05D5", " \u05DF\u05D9", " \u05E8\u05D5", " \u05E8\u05D9",
  " \u05EA\u05D0", " \u05EA\u05D5", " \u05EA\u05D9", "\u05D0 \u05D4", "\u05D0 \u05DC",
  "\u05D0 \u05DD", "\u05D0 \u05EA", "\u05D0\u05D4 ", "\u05D0\u05D5\u05D4", "\u05D0\u05DC ",
  "\u05D0\u05DE ", "\u05D1 \u05D4", "\u05D1 \u05DD", "\u05D1 \u05EA", "\u05D4 \u05D4",
  "\u05D4 \u05D9", "\u05D4 \u05DC", "\u05D4 \u05DD", "\u05D4 \u05DF", "\u05D4 \u05E8",
  "\u05D4 \u05EA", "\u05D4\u05DC ", "\u05D5\u05D0 ", "\u05D5\u05D4 ", "\u05D7\u05D0 ",
  "\u05D9\u05D0 ", "\u05D9\u05D1 ", "\u05D9\u05D4 ", "\u05DC \u05D4", "\u05DC \u05DD",
  "\u05DC \u05EA", "\u05DC\u05E2 ", "\u05DC\u05E9 ", "\u05DD\u05D9\u05D9", "\u05DD\u05D9\u05E0",
  "\u05DD\u05D9\u05E8", "\u05DE \u05D4", "\u05DE \u05DD", "\u05DE \u05EA", "\u05DE\u05D1 ",
  "\u05DE\u05D4 ", "\u05E2\u05D4 ", "\u05E9 \u05D4", "\u05E9 \u05DD", "\u05E9 \u05EA",
  "\u05E9\u05D4 ", "\u05EA\u05D0 ", "\u05EA\u05D4 ", "\u05EA\u05D5\u05D9"
]

def turkish : List String := [
  " ba", " bi", " bu", " da", " de", " ge", " ha", " il", " ka", " ko", " ma", " ol", " sa",
  " ta", " ve", " ya", "a b", "ak ", "ala", "ama", "an ", "anı", "ar ", "ara", "arı", "ası",
  "aya", "bir", "da ", "de ", "di ", "e b", "e k", "edi", "en ", "er ", "eri", "esi", "ile",
  "in ", "ini", "ir ", "lan", "lar", "le ", "ler", "n a", "n b", "n k", "nda", "nde", "ne ",
  "ni ", "nin", "nı ", "rin", "rın", "ve ", "ya ", "yor", "ın ", "ınd", "ını", "ığı"
]

end Graft.Charset.Trigram
