/-!
# Language codes

The languages with a code of two letters, a few further codes of three letters, and the language
most likely spoken in a region or written in a script.
-/

namespace HitCounter.Visitor

/-- The code of three letters for each code of two letters (ISO 639-1 and 639-3). -/
def languageCodes : List (String × String) :=
  [("aa", "aar"), ("ab", "abk"), ("ae", "ave"), ("af", "afr"), ("ak", "aka"), ("am", "amh"),
   ("an", "arg"), ("ar", "ara"), ("as", "asm"), ("av", "ava"), ("ay", "aym"), ("az", "aze"),
   ("ba", "bak"), ("be", "bel"), ("bg", "bul"), ("bi", "bis"), ("bm", "bam"), ("bn", "ben"),
   ("bo", "bod"), ("br", "bre"), ("bs", "bos"), ("ca", "cat"), ("ce", "che"), ("ch", "cha"),
   ("co", "cos"), ("cr", "cre"), ("cs", "ces"), ("cu", "chu"), ("cv", "chv"), ("cy", "cym"),
   ("da", "dan"), ("de", "deu"), ("dv", "div"), ("dz", "dzo"), ("ee", "ewe"), ("el", "ell"),
   ("en", "eng"), ("eo", "epo"), ("es", "spa"), ("et", "est"), ("eu", "eus"), ("fa", "fas"),
   ("ff", "ful"), ("fi", "fin"), ("fj", "fij"), ("fo", "fao"), ("fr", "fra"), ("fy", "fry"),
   ("ga", "gle"), ("gd", "gla"), ("gl", "glg"), ("gn", "grn"), ("gu", "guj"), ("gv", "glv"),
   ("ha", "hau"), ("he", "heb"), ("hi", "hin"), ("ho", "hmo"), ("hr", "hrv"), ("ht", "hat"),
   ("hu", "hun"), ("hy", "hye"), ("hz", "her"), ("ia", "ina"), ("id", "ind"), ("ie", "ile"),
   ("ig", "ibo"), ("ii", "iii"), ("ik", "ipk"), ("io", "ido"), ("is", "isl"), ("it", "ita"),
   ("iu", "iku"), ("ja", "jpn"), ("jv", "jav"), ("ka", "kat"), ("kg", "kon"), ("ki", "kik"),
   ("kj", "kua"), ("kk", "kaz"), ("kl", "kal"), ("km", "khm"), ("kn", "kan"), ("ko", "kor"),
   ("kr", "kau"), ("ks", "kas"), ("ku", "kur"), ("kv", "kom"), ("kw", "cor"), ("ky", "kir"),
   ("la", "lat"), ("lb", "ltz"), ("lg", "lug"), ("li", "lim"), ("ln", "lin"), ("lo", "lao"),
   ("lt", "lit"), ("lu", "lub"), ("lv", "lav"), ("mg", "mlg"), ("mh", "mah"), ("mi", "mri"),
   ("mk", "mkd"), ("ml", "mal"), ("mn", "mon"), ("mr", "mar"), ("ms", "msa"), ("mt", "mlt"),
   ("my", "mya"), ("na", "nau"), ("nb", "nob"), ("nd", "nde"), ("ne", "nep"), ("ng", "ndo"),
   ("nl", "nld"), ("nn", "nno"), ("no", "nor"), ("nr", "nbl"), ("nv", "nav"), ("ny", "nya"),
   ("oc", "oci"), ("oj", "oji"), ("om", "orm"), ("or", "ori"), ("os", "oss"), ("pa", "pan"),
   ("pi", "pli"), ("pl", "pol"), ("ps", "pus"), ("pt", "por"), ("qu", "que"), ("rm", "roh"),
   ("rn", "run"), ("ro", "ron"), ("ru", "rus"), ("rw", "kin"), ("sa", "san"), ("sc", "srd"),
   ("sd", "snd"), ("se", "sme"), ("sg", "sag"), ("sh", "hbs"), ("si", "sin"), ("sk", "slk"),
   ("sl", "slv"), ("sm", "smo"), ("sn", "sna"), ("so", "som"), ("sq", "sqi"), ("sr", "srp"),
   ("ss", "ssw"), ("st", "sot"), ("su", "sun"), ("sv", "swe"), ("sw", "swa"), ("ta", "tam"),
   ("te", "tel"), ("tg", "tgk"), ("th", "tha"), ("ti", "tir"), ("tk", "tuk"), ("tl", "tgl"),
   ("tn", "tsn"), ("to", "ton"), ("tr", "tur"), ("ts", "tso"), ("tt", "tat"), ("tw", "twi"),
   ("ty", "tah"), ("ug", "uig"), ("uk", "ukr"), ("ur", "urd"), ("uz", "uzb"), ("ve", "ven"),
   ("vi", "vie"), ("vo", "vol"), ("wa", "wln"), ("wo", "wol"), ("xh", "xho"), ("yi", "yid"),
   ("yo", "yor"), ("za", "zha"), ("zh", "zho"), ("zu", "zul")]

/-- Some codes of three letters without one of two. -/
def furtherLanguages : List String := ["fil", "yue", "mul", "zxx", "mis"]

/-- The language most likely spoken in a region, by its code of two letters. -/
def likelyInRegion : List (String × String) :=
  [("419", "es"), ("AR", "es"), ("AT", "de"), ("AU", "en"), ("BE", "nl"), ("BR", "pt"),
   ("CA", "en"), ("CH", "de"), ("CN", "zh"), ("CO", "es"), ("CZ", "cs"), ("DE", "de"),
   ("DK", "da"), ("EG", "ar"), ("ES", "es"), ("FI", "fi"), ("FR", "fr"), ("GB", "en"),
   ("GR", "el"), ("HK", "zh"), ("ID", "id"), ("IE", "en"), ("IL", "he"), ("IN", "hi"),
   ("IR", "fa"), ("IT", "it"), ("JP", "ja"), ("KR", "ko"), ("MX", "es"), ("NL", "nl"),
   ("NO", "nb"), ("NZ", "en"), ("PL", "pl"), ("PT", "pt"), ("RU", "ru"), ("SA", "ar"),
   ("SE", "sv"), ("TH", "th"), ("TR", "tr"), ("TW", "zh"), ("UA", "uk"), ("US", "en"),
   ("VN", "vi")]

/-- The language most likely written in a script, by its code of two letters. -/
def likelyInScript : List (String × String) :=
  [("arab", "ar"), ("armn", "hy"), ("beng", "bn"), ("cyrl", "ru"), ("deva", "hi"), ("geor", "ka"),
   ("grek", "el"), ("hang", "ko"), ("hans", "zh"), ("hant", "zh"), ("hebr", "he"), ("hira", "ja"),
   ("jpan", "ja"), ("kana", "ja"), ("kore", "ko"), ("latn", "en"), ("thai", "th")]

end HitCounter.Visitor
