import Arbor.Text.Ranges
/-!
Names of Unicode properties and of their values, as Unicode 16.0 gives them.
-/

namespace Arbor.Text

/-- The names of properties, reduced for loose matching, with the canonical name of the
property each stands for, sorted by name. -/
def propertyNames : List (String × String) := [
  ("age", "Age"), ("ahex", "ASCII_Hex_Digit"), ("alpha", "Alphabetic"),
  ("alphabetic", "Alphabetic"), ("asciihexdigit", "ASCII_Hex_Digit"), ("bc", "Bidi_Class"),
  ("bidic", "Bidi_Control"), ("bidiclass", "Bidi_Class"), ("bidicontrol", "Bidi_Control"),
  ("bidim", "Bidi_Mirrored"), ("bidimirrored", "Bidi_Mirrored"),
  ("bidimirroringglyph", "Bidi_Mirroring_Glyph"),
  ("bidipairedbracket", "Bidi_Paired_Bracket"),
  ("bidipairedbrackettype", "Bidi_Paired_Bracket_Type"), ("blk", "Block"),
  ("block", "Block"), ("bmg", "Bidi_Mirroring_Glyph"), ("bpb", "Bidi_Paired_Bracket"),
  ("bpt", "Bidi_Paired_Bracket_Type"),
  ("canonicalcombiningclass", "Canonical_Combining_Class"), ("cased", "Cased"),
  ("casefolding", "Case_Folding"), ("caseignorable", "Case_Ignorable"),
  ("ccc", "Canonical_Combining_Class"), ("ce", "Composition_Exclusion"),
  ("cf", "Case_Folding"), ("changeswhencasefolded", "Changes_When_Casefolded"),
  ("changeswhencasemapped", "Changes_When_Casemapped"),
  ("changeswhenlowercased", "Changes_When_Lowercased"),
  ("changeswhennfkccasefolded", "Changes_When_NFKC_Casefolded"),
  ("changeswhentitlecased", "Changes_When_Titlecased"),
  ("changeswhenuppercased", "Changes_When_Uppercased"), ("ci", "Case_Ignorable"),
  ("cjkaccountingnumeric", "kAccountingNumeric"),
  ("cjkcompatibilityvariant", "kCompatibilityVariant"), ("cjkiicore", "kIICore"),
  ("cjkirggsource", "kIRG_GSource"), ("cjkirghsource", "kIRG_HSource"),
  ("cjkirgjsource", "kIRG_JSource"), ("cjkirgkpsource", "kIRG_KPSource"),
  ("cjkirgksource", "kIRG_KSource"), ("cjkirgmsource", "kIRG_MSource"),
  ("cjkirgssource", "kIRG_SSource"), ("cjkirgtsource", "kIRG_TSource"),
  ("cjkirguksource", "kIRG_UKSource"), ("cjkirgusource", "kIRG_USource"),
  ("cjkirgvsource", "kIRG_VSource"), ("cjkothernumeric", "kOtherNumeric"),
  ("cjkprimarynumeric", "kPrimaryNumeric"), ("cjkrsunicode", "kRSUnicode"),
  ("compex", "Full_Composition_Exclusion"),
  ("compositionexclusion", "Composition_Exclusion"), ("cwcf", "Changes_When_Casefolded"),
  ("cwcm", "Changes_When_Casemapped"), ("cwkcf", "Changes_When_NFKC_Casefolded"),
  ("cwl", "Changes_When_Lowercased"), ("cwt", "Changes_When_Titlecased"),
  ("cwu", "Changes_When_Uppercased"), ("dash", "Dash"),
  ("decompositionmapping", "Decomposition_Mapping"),
  ("decompositiontype", "Decomposition_Type"),
  ("defaultignorablecodepoint", "Default_Ignorable_Code_Point"), ("dep", "Deprecated"),
  ("deprecated", "Deprecated"), ("di", "Default_Ignorable_Code_Point"), ("dia", "Diacritic"),
  ("diacritic", "Diacritic"), ("dm", "Decomposition_Mapping"), ("dt", "Decomposition_Type"),
  ("ea", "East_Asian_Width"), ("eastasianwidth", "East_Asian_Width"),
  ("ebase", "Emoji_Modifier_Base"), ("ecomp", "Emoji_Component"), ("emod", "Emoji_Modifier"),
  ("emoji", "Emoji"), ("emojicomponent", "Emoji_Component"),
  ("emojimodifier", "Emoji_Modifier"), ("emojimodifierbase", "Emoji_Modifier_Base"),
  ("emojipresentation", "Emoji_Presentation"), ("epres", "Emoji_Presentation"),
  ("equideo", "Equivalent_Unified_Ideograph"),
  ("equivalentunifiedideograph", "Equivalent_Unified_Ideograph"),
  ("expandsonnfc", "Expands_On_NFC"), ("expandsonnfd", "Expands_On_NFD"),
  ("expandsonnfkc", "Expands_On_NFKC"), ("expandsonnfkd", "Expands_On_NFKD"),
  ("ext", "Extender"), ("extendedpictographic", "Extended_Pictographic"),
  ("extender", "Extender"), ("extpict", "Extended_Pictographic"),
  ("fcnfkc", "FC_NFKC_Closure"), ("fcnfkcclosure", "FC_NFKC_Closure"),
  ("fullcompositionexclusion", "Full_Composition_Exclusion"), ("gc", "General_Category"),
  ("gcb", "Grapheme_Cluster_Break"), ("generalcategory", "General_Category"),
  ("graphemebase", "Grapheme_Base"), ("graphemeclusterbreak", "Grapheme_Cluster_Break"),
  ("graphemeextend", "Grapheme_Extend"), ("graphemelink", "Grapheme_Link"),
  ("grbase", "Grapheme_Base"), ("grext", "Grapheme_Extend"), ("grlink", "Grapheme_Link"),
  ("hangulsyllabletype", "Hangul_Syllable_Type"), ("hex", "Hex_Digit"),
  ("hexdigit", "Hex_Digit"), ("hst", "Hangul_Syllable_Type"), ("hyphen", "Hyphen"),
  ("idc", "ID_Continue"), ("idcompatmathcontinue", "ID_Compat_Math_Continue"),
  ("idcompatmathstart", "ID_Compat_Math_Start"), ("idcontinue", "ID_Continue"),
  ("ideo", "Ideographic"), ("ideographic", "Ideographic"), ("ids", "ID_Start"),
  ("idsb", "IDS_Binary_Operator"), ("idsbinaryoperator", "IDS_Binary_Operator"),
  ("idst", "IDS_Trinary_Operator"), ("idstart", "ID_Start"),
  ("idstrinaryoperator", "IDS_Trinary_Operator"), ("idsu", "IDS_Unary_Operator"),
  ("idsunaryoperator", "IDS_Unary_Operator"), ("incb", "Indic_Conjunct_Break"),
  ("indicconjunctbreak", "Indic_Conjunct_Break"),
  ("indicpositionalcategory", "Indic_Positional_Category"),
  ("indicsyllabiccategory", "Indic_Syllabic_Category"),
  ("inpc", "Indic_Positional_Category"), ("insc", "Indic_Syllabic_Category"),
  ("isc", "ISO_Comment"), ("jamoshortname", "Jamo_Short_Name"), ("jg", "Joining_Group"),
  ("joinc", "Join_Control"), ("joincontrol", "Join_Control"),
  ("joininggroup", "Joining_Group"), ("joiningtype", "Joining_Type"),
  ("jsn", "Jamo_Short_Name"), ("jt", "Joining_Type"),
  ("kaccountingnumeric", "kAccountingNumeric"),
  ("kcompatibilityvariant", "kCompatibilityVariant"), ("kehcat", "kEH_Cat"),
  ("kehdesc", "kEH_Desc"), ("kehhg", "kEH_HG"), ("kehifao", "kEH_IFAO"),
  ("kehjsesh", "kEH_JSesh"), ("kehnomirror", "kEH_NoMirror"),
  ("kehnorotate", "kEH_NoRotate"), ("kiicore", "kIICore"), ("kirggsource", "kIRG_GSource"),
  ("kirghsource", "kIRG_HSource"), ("kirgjsource", "kIRG_JSource"),
  ("kirgkpsource", "kIRG_KPSource"), ("kirgksource", "kIRG_KSource"),
  ("kirgmsource", "kIRG_MSource"), ("kirgssource", "kIRG_SSource"),
  ("kirgtsource", "kIRG_TSource"), ("kirguksource", "kIRG_UKSource"),
  ("kirgusource", "kIRG_USource"), ("kirgvsource", "kIRG_VSource"),
  ("kothernumeric", "kOtherNumeric"), ("kprimarynumeric", "kPrimaryNumeric"),
  ("krsunicode", "kRSUnicode"), ("lb", "Line_Break"), ("lc", "Lowercase_Mapping"),
  ("linebreak", "Line_Break"), ("loe", "Logical_Order_Exception"),
  ("logicalorderexception", "Logical_Order_Exception"), ("lower", "Lowercase"),
  ("lowercase", "Lowercase"), ("lowercasemapping", "Lowercase_Mapping"), ("math", "Math"),
  ("mcm", "Modifier_Combining_Mark"), ("modifiercombiningmark", "Modifier_Combining_Mark"),
  ("na", "Name"), ("na1", "Unicode_1_Name"), ("name", "Name"), ("namealias", "Name_Alias"),
  ("nchar", "Noncharacter_Code_Point"), ("nfcqc", "NFC_Quick_Check"),
  ("nfcquickcheck", "NFC_Quick_Check"), ("nfdqc", "NFD_Quick_Check"),
  ("nfdquickcheck", "NFD_Quick_Check"), ("nfkccasefold", "NFKC_Casefold"),
  ("nfkccf", "NFKC_Casefold"), ("nfkcqc", "NFKC_Quick_Check"),
  ("nfkcquickcheck", "NFKC_Quick_Check"), ("nfkcscf", "NFKC_Simple_Casefold"),
  ("nfkcsimplecasefold", "NFKC_Simple_Casefold"), ("nfkdqc", "NFKD_Quick_Check"),
  ("nfkdquickcheck", "NFKD_Quick_Check"),
  ("noncharactercodepoint", "Noncharacter_Code_Point"), ("nt", "Numeric_Type"),
  ("numerictype", "Numeric_Type"), ("numericvalue", "Numeric_Value"),
  ("nv", "Numeric_Value"), ("oalpha", "Other_Alphabetic"), ("ocomment", "ISO_Comment"),
  ("odi", "Other_Default_Ignorable_Code_Point"), ("ogrext", "Other_Grapheme_Extend"),
  ("oidc", "Other_ID_Continue"), ("oids", "Other_ID_Start"), ("olower", "Other_Lowercase"),
  ("omath", "Other_Math"), ("otheralphabetic", "Other_Alphabetic"),
  ("otherdefaultignorablecodepoint", "Other_Default_Ignorable_Code_Point"),
  ("othergraphemeextend", "Other_Grapheme_Extend"), ("otheridcontinue", "Other_ID_Continue"),
  ("otheridstart", "Other_ID_Start"), ("otherlowercase", "Other_Lowercase"),
  ("othermath", "Other_Math"), ("otheruppercase", "Other_Uppercase"),
  ("oupper", "Other_Uppercase"), ("patsyn", "Pattern_Syntax"),
  ("patternsyntax", "Pattern_Syntax"), ("patternwhitespace", "Pattern_White_Space"),
  ("patws", "Pattern_White_Space"), ("pcm", "Prepended_Concatenation_Mark"),
  ("prependedconcatenationmark", "Prepended_Concatenation_Mark"),
  ("qmark", "Quotation_Mark"), ("quotationmark", "Quotation_Mark"), ("radical", "Radical"),
  ("regionalindicator", "Regional_Indicator"), ("ri", "Regional_Indicator"),
  ("sb", "Sentence_Break"), ("sc", "Script"), ("scf", "Simple_Case_Folding"),
  ("script", "Script"), ("scriptextensions", "Script_Extensions"),
  ("scx", "Script_Extensions"), ("sd", "Soft_Dotted"), ("sentencebreak", "Sentence_Break"),
  ("sentenceterminal", "Sentence_Terminal"), ("sfc", "Simple_Case_Folding"),
  ("simplecasefolding", "Simple_Case_Folding"),
  ("simplelowercasemapping", "Simple_Lowercase_Mapping"),
  ("simpletitlecasemapping", "Simple_Titlecase_Mapping"),
  ("simpleuppercasemapping", "Simple_Uppercase_Mapping"),
  ("slc", "Simple_Lowercase_Mapping"), ("softdotted", "Soft_Dotted"),
  ("space", "White_Space"), ("stc", "Simple_Titlecase_Mapping"),
  ("sterm", "Sentence_Terminal"), ("suc", "Simple_Uppercase_Mapping"),
  ("tc", "Titlecase_Mapping"), ("term", "Terminal_Punctuation"),
  ("terminalpunctuation", "Terminal_Punctuation"), ("titlecasemapping", "Titlecase_Mapping"),
  ("uc", "Uppercase_Mapping"), ("uideo", "Unified_Ideograph"),
  ("unicode1name", "Unicode_1_Name"), ("unicoderadicalstroke", "kRSUnicode"),
  ("unifiedideograph", "Unified_Ideograph"), ("upper", "Uppercase"),
  ("uppercase", "Uppercase"), ("uppercasemapping", "Uppercase_Mapping"),
  ("urs", "kRSUnicode"), ("variationselector", "Variation_Selector"),
  ("verticalorientation", "Vertical_Orientation"), ("vo", "Vertical_Orientation"),
  ("vs", "Variation_Selector"), ("wb", "Word_Break"), ("whitespace", "White_Space"),
  ("wordbreak", "Word_Break"), ("wspace", "White_Space"), ("xidc", "XID_Continue"),
  ("xidcontinue", "XID_Continue"), ("xids", "XID_Start"), ("xidstart", "XID_Start"),
  ("xonfc", "Expands_On_NFC"), ("xonfd", "Expands_On_NFD"), ("xonfkc", "Expands_On_NFKC"),
  ("xonfkd", "Expands_On_NFKD")]

/-- For each property that takes a value, by canonical name: the names of its values, reduced
for loose matching, with the canonical value each stands for, sorted by name. -/
def propertyValueNames : List (String × List (String × String)) := [
  ("Age", [
    ("1.1", "V1_1"), ("10.0", "V10_0"), ("11.0", "V11_0"), ("12.0", "V12_0"),
    ("12.1", "V12_1"), ("13.0", "V13_0"), ("14.0", "V14_0"), ("15.0", "V15_0"),
    ("15.1", "V15_1"), ("16.0", "V16_0"), ("2.0", "V2_0"), ("2.1", "V2_1"), ("3.0", "V3_0"),
    ("3.1", "V3_1"), ("3.2", "V3_2"), ("4.0", "V4_0"), ("4.1", "V4_1"), ("5.0", "V5_0"),
    ("5.1", "V5_1"), ("5.2", "V5_2"), ("6.0", "V6_0"), ("6.1", "V6_1"), ("6.2", "V6_2"),
    ("6.3", "V6_3"), ("7.0", "V7_0"), ("8.0", "V8_0"), ("9.0", "V9_0"), ("na", "Unassigned"),
    ("unassigned", "Unassigned"), ("v100", "V10_0"), ("v11", "V1_1"), ("v110", "V11_0"),
    ("v120", "V12_0"), ("v121", "V12_1"), ("v130", "V13_0"), ("v140", "V14_0"),
    ("v150", "V15_0"), ("v151", "V15_1"), ("v160", "V16_0"), ("v20", "V2_0"),
    ("v21", "V2_1"), ("v30", "V3_0"), ("v31", "V3_1"), ("v32", "V3_2"), ("v40", "V4_0"),
    ("v41", "V4_1"), ("v50", "V5_0"), ("v51", "V5_1"), ("v52", "V5_2"), ("v60", "V6_0"),
    ("v61", "V6_1"), ("v62", "V6_2"), ("v63", "V6_3"), ("v70", "V7_0"), ("v80", "V8_0"),
    ("v90", "V9_0")]),
  ("General_Category", [
    ("c", "Other"), ("casedletter", "Cased_Letter"), ("cc", "Control"), ("cf", "Format"),
    ("closepunctuation", "Close_Punctuation"), ("cn", "Unassigned"), ("cntrl", "Control"),
    ("co", "Private_Use"), ("combiningmark", "Mark"),
    ("connectorpunctuation", "Connector_Punctuation"), ("control", "Control"),
    ("cs", "Surrogate"), ("currencysymbol", "Currency_Symbol"),
    ("dashpunctuation", "Dash_Punctuation"), ("decimalnumber", "Decimal_Number"),
    ("digit", "Decimal_Number"), ("enclosingmark", "Enclosing_Mark"),
    ("finalpunctuation", "Final_Punctuation"), ("format", "Format"),
    ("initialpunctuation", "Initial_Punctuation"), ("l", "Letter"), ("lc", "Cased_Letter"),
    ("letter", "Letter"), ("letternumber", "Letter_Number"),
    ("lineseparator", "Line_Separator"), ("ll", "Lowercase_Letter"),
    ("lm", "Modifier_Letter"), ("lo", "Other_Letter"),
    ("lowercaseletter", "Lowercase_Letter"), ("lt", "Titlecase_Letter"),
    ("lu", "Uppercase_Letter"), ("m", "Mark"), ("mark", "Mark"),
    ("mathsymbol", "Math_Symbol"), ("mc", "Spacing_Mark"), ("me", "Enclosing_Mark"),
    ("mn", "Nonspacing_Mark"), ("modifierletter", "Modifier_Letter"),
    ("modifiersymbol", "Modifier_Symbol"), ("n", "Number"), ("nd", "Decimal_Number"),
    ("nl", "Letter_Number"), ("no", "Other_Number"), ("nonspacingmark", "Nonspacing_Mark"),
    ("number", "Number"), ("openpunctuation", "Open_Punctuation"), ("other", "Other"),
    ("otherletter", "Other_Letter"), ("othernumber", "Other_Number"),
    ("otherpunctuation", "Other_Punctuation"), ("othersymbol", "Other_Symbol"),
    ("p", "Punctuation"), ("paragraphseparator", "Paragraph_Separator"),
    ("pc", "Connector_Punctuation"), ("pd", "Dash_Punctuation"), ("pe", "Close_Punctuation"),
    ("pf", "Final_Punctuation"), ("pi", "Initial_Punctuation"), ("po", "Other_Punctuation"),
    ("privateuse", "Private_Use"), ("ps", "Open_Punctuation"), ("punct", "Punctuation"),
    ("punctuation", "Punctuation"), ("s", "Symbol"), ("sc", "Currency_Symbol"),
    ("separator", "Separator"), ("sk", "Modifier_Symbol"), ("sm", "Math_Symbol"),
    ("so", "Other_Symbol"), ("spaceseparator", "Space_Separator"),
    ("spacingmark", "Spacing_Mark"), ("surrogate", "Surrogate"), ("symbol", "Symbol"),
    ("titlecaseletter", "Titlecase_Letter"), ("unassigned", "Unassigned"),
    ("uppercaseletter", "Uppercase_Letter"), ("z", "Separator"), ("zl", "Line_Separator"),
    ("zp", "Paragraph_Separator"), ("zs", "Space_Separator")]),
  ("Grapheme_Cluster_Break", [
    ("cn", "Control"), ("control", "Control"), ("cr", "CR"), ("eb", "E_Base"),
    ("ebase", "E_Base"), ("ebasegaz", "E_Base_GAZ"), ("ebg", "E_Base_GAZ"),
    ("em", "E_Modifier"), ("emodifier", "E_Modifier"), ("ex", "Extend"),
    ("extend", "Extend"), ("gaz", "Glue_After_Zwj"), ("glueafterzwj", "Glue_After_Zwj"),
    ("l", "L"), ("lf", "LF"), ("lv", "LV"), ("lvt", "LVT"), ("other", "Other"),
    ("pp", "Prepend"), ("prepend", "Prepend"), ("regionalindicator", "Regional_Indicator"),
    ("ri", "Regional_Indicator"), ("sm", "SpacingMark"), ("spacingmark", "SpacingMark"),
    ("t", "T"), ("v", "V"), ("xx", "Other"), ("zwj", "ZWJ")]),
  ("Script", [
    ("adlam", "Adlam"), ("adlm", "Adlam"), ("aghb", "Caucasian_Albanian"), ("ahom", "Ahom"),
    ("anatolianhieroglyphs", "Anatolian_Hieroglyphs"), ("arab", "Arabic"),
    ("arabic", "Arabic"), ("armenian", "Armenian"), ("armi", "Imperial_Aramaic"),
    ("armn", "Armenian"), ("avestan", "Avestan"), ("avst", "Avestan"), ("bali", "Balinese"),
    ("balinese", "Balinese"), ("bamu", "Bamum"), ("bamum", "Bamum"), ("bass", "Bassa_Vah"),
    ("bassavah", "Bassa_Vah"), ("batak", "Batak"), ("batk", "Batak"), ("beng", "Bengali"),
    ("bengali", "Bengali"), ("bhaiksuki", "Bhaiksuki"), ("bhks", "Bhaiksuki"),
    ("bopo", "Bopomofo"), ("bopomofo", "Bopomofo"), ("brah", "Brahmi"), ("brahmi", "Brahmi"),
    ("brai", "Braille"), ("braille", "Braille"), ("bugi", "Buginese"),
    ("buginese", "Buginese"), ("buhd", "Buhid"), ("buhid", "Buhid"), ("cakm", "Chakma"),
    ("canadianaboriginal", "Canadian_Aboriginal"), ("cans", "Canadian_Aboriginal"),
    ("cari", "Carian"), ("carian", "Carian"), ("caucasianalbanian", "Caucasian_Albanian"),
    ("chakma", "Chakma"), ("cham", "Cham"), ("cher", "Cherokee"), ("cherokee", "Cherokee"),
    ("chorasmian", "Chorasmian"), ("chrs", "Chorasmian"), ("common", "Common"),
    ("copt", "Coptic"), ("coptic", "Coptic"), ("cpmn", "Cypro_Minoan"), ("cprt", "Cypriot"),
    ("cuneiform", "Cuneiform"), ("cypriot", "Cypriot"), ("cyprominoan", "Cypro_Minoan"),
    ("cyrillic", "Cyrillic"), ("cyrl", "Cyrillic"), ("deseret", "Deseret"),
    ("deva", "Devanagari"), ("devanagari", "Devanagari"), ("diak", "Dives_Akuru"),
    ("divesakuru", "Dives_Akuru"), ("dogr", "Dogra"), ("dogra", "Dogra"),
    ("dsrt", "Deseret"), ("dupl", "Duployan"), ("duployan", "Duployan"),
    ("egyp", "Egyptian_Hieroglyphs"), ("egyptianhieroglyphs", "Egyptian_Hieroglyphs"),
    ("elba", "Elbasan"), ("elbasan", "Elbasan"), ("elym", "Elymaic"), ("elymaic", "Elymaic"),
    ("ethi", "Ethiopic"), ("ethiopic", "Ethiopic"), ("gara", "Garay"), ("garay", "Garay"),
    ("geor", "Georgian"), ("georgian", "Georgian"), ("glag", "Glagolitic"),
    ("glagolitic", "Glagolitic"), ("gong", "Gunjala_Gondi"), ("gonm", "Masaram_Gondi"),
    ("goth", "Gothic"), ("gothic", "Gothic"), ("gran", "Grantha"), ("grantha", "Grantha"),
    ("greek", "Greek"), ("grek", "Greek"), ("gujarati", "Gujarati"), ("gujr", "Gujarati"),
    ("gukh", "Gurung_Khema"), ("gunjalagondi", "Gunjala_Gondi"), ("gurmukhi", "Gurmukhi"),
    ("guru", "Gurmukhi"), ("gurungkhema", "Gurung_Khema"), ("han", "Han"),
    ("hang", "Hangul"), ("hangul", "Hangul"), ("hani", "Han"),
    ("hanifirohingya", "Hanifi_Rohingya"), ("hano", "Hanunoo"), ("hanunoo", "Hanunoo"),
    ("hatr", "Hatran"), ("hatran", "Hatran"), ("hebr", "Hebrew"), ("hebrew", "Hebrew"),
    ("hira", "Hiragana"), ("hiragana", "Hiragana"), ("hluw", "Anatolian_Hieroglyphs"),
    ("hmng", "Pahawh_Hmong"), ("hmnp", "Nyiakeng_Puachue_Hmong"),
    ("hrkt", "Katakana_Or_Hiragana"), ("hung", "Old_Hungarian"),
    ("imperialaramaic", "Imperial_Aramaic"), ("inherited", "Inherited"),
    ("inscriptionalpahlavi", "Inscriptional_Pahlavi"),
    ("inscriptionalparthian", "Inscriptional_Parthian"), ("ital", "Old_Italic"),
    ("java", "Javanese"), ("javanese", "Javanese"), ("kaithi", "Kaithi"),
    ("kali", "Kayah_Li"), ("kana", "Katakana"), ("kannada", "Kannada"),
    ("katakana", "Katakana"), ("katakanaorhiragana", "Katakana_Or_Hiragana"),
    ("kawi", "Kawi"), ("kayahli", "Kayah_Li"), ("khar", "Kharoshthi"),
    ("kharoshthi", "Kharoshthi"), ("khitansmallscript", "Khitan_Small_Script"),
    ("khmer", "Khmer"), ("khmr", "Khmer"), ("khoj", "Khojki"), ("khojki", "Khojki"),
    ("khudawadi", "Khudawadi"), ("kiratrai", "Kirat_Rai"), ("kits", "Khitan_Small_Script"),
    ("knda", "Kannada"), ("krai", "Kirat_Rai"), ("kthi", "Kaithi"), ("lana", "Tai_Tham"),
    ("lao", "Lao"), ("laoo", "Lao"), ("latin", "Latin"), ("latn", "Latin"),
    ("lepc", "Lepcha"), ("lepcha", "Lepcha"), ("limb", "Limbu"), ("limbu", "Limbu"),
    ("lina", "Linear_A"), ("linb", "Linear_B"), ("lineara", "Linear_A"),
    ("linearb", "Linear_B"), ("lisu", "Lisu"), ("lyci", "Lycian"), ("lycian", "Lycian"),
    ("lydi", "Lydian"), ("lydian", "Lydian"), ("mahajani", "Mahajani"), ("mahj", "Mahajani"),
    ("maka", "Makasar"), ("makasar", "Makasar"), ("malayalam", "Malayalam"),
    ("mand", "Mandaic"), ("mandaic", "Mandaic"), ("mani", "Manichaean"),
    ("manichaean", "Manichaean"), ("marc", "Marchen"), ("marchen", "Marchen"),
    ("masaramgondi", "Masaram_Gondi"), ("medefaidrin", "Medefaidrin"),
    ("medf", "Medefaidrin"), ("meeteimayek", "Meetei_Mayek"), ("mend", "Mende_Kikakui"),
    ("mendekikakui", "Mende_Kikakui"), ("merc", "Meroitic_Cursive"),
    ("mero", "Meroitic_Hieroglyphs"), ("meroiticcursive", "Meroitic_Cursive"),
    ("meroitichieroglyphs", "Meroitic_Hieroglyphs"), ("miao", "Miao"), ("mlym", "Malayalam"),
    ("modi", "Modi"), ("mong", "Mongolian"), ("mongolian", "Mongolian"), ("mro", "Mro"),
    ("mroo", "Mro"), ("mtei", "Meetei_Mayek"), ("mult", "Multani"), ("multani", "Multani"),
    ("myanmar", "Myanmar"), ("mymr", "Myanmar"), ("nabataean", "Nabataean"),
    ("nagm", "Nag_Mundari"), ("nagmundari", "Nag_Mundari"), ("nand", "Nandinagari"),
    ("nandinagari", "Nandinagari"), ("narb", "Old_North_Arabian"), ("nbat", "Nabataean"),
    ("newa", "Newa"), ("newtailue", "New_Tai_Lue"), ("nko", "Nko"), ("nkoo", "Nko"),
    ("nshu", "Nushu"), ("nushu", "Nushu"),
    ("nyiakengpuachuehmong", "Nyiakeng_Puachue_Hmong"), ("ogam", "Ogham"),
    ("ogham", "Ogham"), ("olchiki", "Ol_Chiki"), ("olck", "Ol_Chiki"),
    ("oldhungarian", "Old_Hungarian"), ("olditalic", "Old_Italic"),
    ("oldnortharabian", "Old_North_Arabian"), ("oldpermic", "Old_Permic"),
    ("oldpersian", "Old_Persian"), ("oldsogdian", "Old_Sogdian"),
    ("oldsoutharabian", "Old_South_Arabian"), ("oldturkic", "Old_Turkic"),
    ("olduyghur", "Old_Uyghur"), ("olonal", "Ol_Onal"), ("onao", "Ol_Onal"),
    ("oriya", "Oriya"), ("orkh", "Old_Turkic"), ("orya", "Oriya"), ("osage", "Osage"),
    ("osge", "Osage"), ("osma", "Osmanya"), ("osmanya", "Osmanya"), ("ougr", "Old_Uyghur"),
    ("pahawhhmong", "Pahawh_Hmong"), ("palm", "Palmyrene"), ("palmyrene", "Palmyrene"),
    ("pauc", "Pau_Cin_Hau"), ("paucinhau", "Pau_Cin_Hau"), ("perm", "Old_Permic"),
    ("phag", "Phags_Pa"), ("phagspa", "Phags_Pa"), ("phli", "Inscriptional_Pahlavi"),
    ("phlp", "Psalter_Pahlavi"), ("phnx", "Phoenician"), ("phoenician", "Phoenician"),
    ("plrd", "Miao"), ("prti", "Inscriptional_Parthian"),
    ("psalterpahlavi", "Psalter_Pahlavi"), ("qaac", "Coptic"), ("qaai", "Inherited"),
    ("rejang", "Rejang"), ("rjng", "Rejang"), ("rohg", "Hanifi_Rohingya"),
    ("runic", "Runic"), ("runr", "Runic"), ("samaritan", "Samaritan"), ("samr", "Samaritan"),
    ("sarb", "Old_South_Arabian"), ("saur", "Saurashtra"), ("saurashtra", "Saurashtra"),
    ("sgnw", "SignWriting"), ("sharada", "Sharada"), ("shavian", "Shavian"),
    ("shaw", "Shavian"), ("shrd", "Sharada"), ("sidd", "Siddham"), ("siddham", "Siddham"),
    ("signwriting", "SignWriting"), ("sind", "Khudawadi"), ("sinh", "Sinhala"),
    ("sinhala", "Sinhala"), ("sogd", "Sogdian"), ("sogdian", "Sogdian"),
    ("sogo", "Old_Sogdian"), ("sora", "Sora_Sompeng"), ("sorasompeng", "Sora_Sompeng"),
    ("soyo", "Soyombo"), ("soyombo", "Soyombo"), ("sund", "Sundanese"),
    ("sundanese", "Sundanese"), ("sunu", "Sunuwar"), ("sunuwar", "Sunuwar"),
    ("sylo", "Syloti_Nagri"), ("sylotinagri", "Syloti_Nagri"), ("syrc", "Syriac"),
    ("syriac", "Syriac"), ("tagalog", "Tagalog"), ("tagb", "Tagbanwa"),
    ("tagbanwa", "Tagbanwa"), ("taile", "Tai_Le"), ("taitham", "Tai_Tham"),
    ("taiviet", "Tai_Viet"), ("takr", "Takri"), ("takri", "Takri"), ("tale", "Tai_Le"),
    ("talu", "New_Tai_Lue"), ("tamil", "Tamil"), ("taml", "Tamil"), ("tang", "Tangut"),
    ("tangsa", "Tangsa"), ("tangut", "Tangut"), ("tavt", "Tai_Viet"), ("telu", "Telugu"),
    ("telugu", "Telugu"), ("tfng", "Tifinagh"), ("tglg", "Tagalog"), ("thaa", "Thaana"),
    ("thaana", "Thaana"), ("thai", "Thai"), ("tibetan", "Tibetan"), ("tibt", "Tibetan"),
    ("tifinagh", "Tifinagh"), ("tirh", "Tirhuta"), ("tirhuta", "Tirhuta"),
    ("tnsa", "Tangsa"), ("todhri", "Todhri"), ("todr", "Todhri"), ("toto", "Toto"),
    ("tulutigalari", "Tulu_Tigalari"), ("tutg", "Tulu_Tigalari"), ("ugar", "Ugaritic"),
    ("ugaritic", "Ugaritic"), ("unknown", "Unknown"), ("vai", "Vai"), ("vaii", "Vai"),
    ("vith", "Vithkuqi"), ("vithkuqi", "Vithkuqi"), ("wancho", "Wancho"),
    ("wara", "Warang_Citi"), ("warangciti", "Warang_Citi"), ("wcho", "Wancho"),
    ("xpeo", "Old_Persian"), ("xsux", "Cuneiform"), ("yezi", "Yezidi"), ("yezidi", "Yezidi"),
    ("yi", "Yi"), ("yiii", "Yi"), ("zanabazarsquare", "Zanabazar_Square"),
    ("zanb", "Zanabazar_Square"), ("zinh", "Inherited"), ("zyyy", "Common"),
    ("zzzz", "Unknown")]),
  ("Script_Extensions", [
    ("adlam", "Adlam"), ("adlm", "Adlam"), ("aghb", "Caucasian_Albanian"), ("ahom", "Ahom"),
    ("anatolianhieroglyphs", "Anatolian_Hieroglyphs"), ("arab", "Arabic"),
    ("arabic", "Arabic"), ("armenian", "Armenian"), ("armi", "Imperial_Aramaic"),
    ("armn", "Armenian"), ("avestan", "Avestan"), ("avst", "Avestan"), ("bali", "Balinese"),
    ("balinese", "Balinese"), ("bamu", "Bamum"), ("bamum", "Bamum"), ("bass", "Bassa_Vah"),
    ("bassavah", "Bassa_Vah"), ("batak", "Batak"), ("batk", "Batak"), ("beng", "Bengali"),
    ("bengali", "Bengali"), ("bhaiksuki", "Bhaiksuki"), ("bhks", "Bhaiksuki"),
    ("bopo", "Bopomofo"), ("bopomofo", "Bopomofo"), ("brah", "Brahmi"), ("brahmi", "Brahmi"),
    ("brai", "Braille"), ("braille", "Braille"), ("bugi", "Buginese"),
    ("buginese", "Buginese"), ("buhd", "Buhid"), ("buhid", "Buhid"), ("cakm", "Chakma"),
    ("canadianaboriginal", "Canadian_Aboriginal"), ("cans", "Canadian_Aboriginal"),
    ("cari", "Carian"), ("carian", "Carian"), ("caucasianalbanian", "Caucasian_Albanian"),
    ("chakma", "Chakma"), ("cham", "Cham"), ("cher", "Cherokee"), ("cherokee", "Cherokee"),
    ("chorasmian", "Chorasmian"), ("chrs", "Chorasmian"), ("common", "Common"),
    ("copt", "Coptic"), ("coptic", "Coptic"), ("cpmn", "Cypro_Minoan"), ("cprt", "Cypriot"),
    ("cuneiform", "Cuneiform"), ("cypriot", "Cypriot"), ("cyprominoan", "Cypro_Minoan"),
    ("cyrillic", "Cyrillic"), ("cyrl", "Cyrillic"), ("deseret", "Deseret"),
    ("deva", "Devanagari"), ("devanagari", "Devanagari"), ("diak", "Dives_Akuru"),
    ("divesakuru", "Dives_Akuru"), ("dogr", "Dogra"), ("dogra", "Dogra"),
    ("dsrt", "Deseret"), ("dupl", "Duployan"), ("duployan", "Duployan"),
    ("egyp", "Egyptian_Hieroglyphs"), ("egyptianhieroglyphs", "Egyptian_Hieroglyphs"),
    ("elba", "Elbasan"), ("elbasan", "Elbasan"), ("elym", "Elymaic"), ("elymaic", "Elymaic"),
    ("ethi", "Ethiopic"), ("ethiopic", "Ethiopic"), ("gara", "Garay"), ("garay", "Garay"),
    ("geor", "Georgian"), ("georgian", "Georgian"), ("glag", "Glagolitic"),
    ("glagolitic", "Glagolitic"), ("gong", "Gunjala_Gondi"), ("gonm", "Masaram_Gondi"),
    ("goth", "Gothic"), ("gothic", "Gothic"), ("gran", "Grantha"), ("grantha", "Grantha"),
    ("greek", "Greek"), ("grek", "Greek"), ("gujarati", "Gujarati"), ("gujr", "Gujarati"),
    ("gukh", "Gurung_Khema"), ("gunjalagondi", "Gunjala_Gondi"), ("gurmukhi", "Gurmukhi"),
    ("guru", "Gurmukhi"), ("gurungkhema", "Gurung_Khema"), ("han", "Han"),
    ("hang", "Hangul"), ("hangul", "Hangul"), ("hani", "Han"),
    ("hanifirohingya", "Hanifi_Rohingya"), ("hano", "Hanunoo"), ("hanunoo", "Hanunoo"),
    ("hatr", "Hatran"), ("hatran", "Hatran"), ("hebr", "Hebrew"), ("hebrew", "Hebrew"),
    ("hira", "Hiragana"), ("hiragana", "Hiragana"), ("hluw", "Anatolian_Hieroglyphs"),
    ("hmng", "Pahawh_Hmong"), ("hmnp", "Nyiakeng_Puachue_Hmong"),
    ("hrkt", "Katakana_Or_Hiragana"), ("hung", "Old_Hungarian"),
    ("imperialaramaic", "Imperial_Aramaic"), ("inherited", "Inherited"),
    ("inscriptionalpahlavi", "Inscriptional_Pahlavi"),
    ("inscriptionalparthian", "Inscriptional_Parthian"), ("ital", "Old_Italic"),
    ("java", "Javanese"), ("javanese", "Javanese"), ("kaithi", "Kaithi"),
    ("kali", "Kayah_Li"), ("kana", "Katakana"), ("kannada", "Kannada"),
    ("katakana", "Katakana"), ("katakanaorhiragana", "Katakana_Or_Hiragana"),
    ("kawi", "Kawi"), ("kayahli", "Kayah_Li"), ("khar", "Kharoshthi"),
    ("kharoshthi", "Kharoshthi"), ("khitansmallscript", "Khitan_Small_Script"),
    ("khmer", "Khmer"), ("khmr", "Khmer"), ("khoj", "Khojki"), ("khojki", "Khojki"),
    ("khudawadi", "Khudawadi"), ("kiratrai", "Kirat_Rai"), ("kits", "Khitan_Small_Script"),
    ("knda", "Kannada"), ("krai", "Kirat_Rai"), ("kthi", "Kaithi"), ("lana", "Tai_Tham"),
    ("lao", "Lao"), ("laoo", "Lao"), ("latin", "Latin"), ("latn", "Latin"),
    ("lepc", "Lepcha"), ("lepcha", "Lepcha"), ("limb", "Limbu"), ("limbu", "Limbu"),
    ("lina", "Linear_A"), ("linb", "Linear_B"), ("lineara", "Linear_A"),
    ("linearb", "Linear_B"), ("lisu", "Lisu"), ("lyci", "Lycian"), ("lycian", "Lycian"),
    ("lydi", "Lydian"), ("lydian", "Lydian"), ("mahajani", "Mahajani"), ("mahj", "Mahajani"),
    ("maka", "Makasar"), ("makasar", "Makasar"), ("malayalam", "Malayalam"),
    ("mand", "Mandaic"), ("mandaic", "Mandaic"), ("mani", "Manichaean"),
    ("manichaean", "Manichaean"), ("marc", "Marchen"), ("marchen", "Marchen"),
    ("masaramgondi", "Masaram_Gondi"), ("medefaidrin", "Medefaidrin"),
    ("medf", "Medefaidrin"), ("meeteimayek", "Meetei_Mayek"), ("mend", "Mende_Kikakui"),
    ("mendekikakui", "Mende_Kikakui"), ("merc", "Meroitic_Cursive"),
    ("mero", "Meroitic_Hieroglyphs"), ("meroiticcursive", "Meroitic_Cursive"),
    ("meroitichieroglyphs", "Meroitic_Hieroglyphs"), ("miao", "Miao"), ("mlym", "Malayalam"),
    ("modi", "Modi"), ("mong", "Mongolian"), ("mongolian", "Mongolian"), ("mro", "Mro"),
    ("mroo", "Mro"), ("mtei", "Meetei_Mayek"), ("mult", "Multani"), ("multani", "Multani"),
    ("myanmar", "Myanmar"), ("mymr", "Myanmar"), ("nabataean", "Nabataean"),
    ("nagm", "Nag_Mundari"), ("nagmundari", "Nag_Mundari"), ("nand", "Nandinagari"),
    ("nandinagari", "Nandinagari"), ("narb", "Old_North_Arabian"), ("nbat", "Nabataean"),
    ("newa", "Newa"), ("newtailue", "New_Tai_Lue"), ("nko", "Nko"), ("nkoo", "Nko"),
    ("nshu", "Nushu"), ("nushu", "Nushu"),
    ("nyiakengpuachuehmong", "Nyiakeng_Puachue_Hmong"), ("ogam", "Ogham"),
    ("ogham", "Ogham"), ("olchiki", "Ol_Chiki"), ("olck", "Ol_Chiki"),
    ("oldhungarian", "Old_Hungarian"), ("olditalic", "Old_Italic"),
    ("oldnortharabian", "Old_North_Arabian"), ("oldpermic", "Old_Permic"),
    ("oldpersian", "Old_Persian"), ("oldsogdian", "Old_Sogdian"),
    ("oldsoutharabian", "Old_South_Arabian"), ("oldturkic", "Old_Turkic"),
    ("olduyghur", "Old_Uyghur"), ("olonal", "Ol_Onal"), ("onao", "Ol_Onal"),
    ("oriya", "Oriya"), ("orkh", "Old_Turkic"), ("orya", "Oriya"), ("osage", "Osage"),
    ("osge", "Osage"), ("osma", "Osmanya"), ("osmanya", "Osmanya"), ("ougr", "Old_Uyghur"),
    ("pahawhhmong", "Pahawh_Hmong"), ("palm", "Palmyrene"), ("palmyrene", "Palmyrene"),
    ("pauc", "Pau_Cin_Hau"), ("paucinhau", "Pau_Cin_Hau"), ("perm", "Old_Permic"),
    ("phag", "Phags_Pa"), ("phagspa", "Phags_Pa"), ("phli", "Inscriptional_Pahlavi"),
    ("phlp", "Psalter_Pahlavi"), ("phnx", "Phoenician"), ("phoenician", "Phoenician"),
    ("plrd", "Miao"), ("prti", "Inscriptional_Parthian"),
    ("psalterpahlavi", "Psalter_Pahlavi"), ("qaac", "Coptic"), ("qaai", "Inherited"),
    ("rejang", "Rejang"), ("rjng", "Rejang"), ("rohg", "Hanifi_Rohingya"),
    ("runic", "Runic"), ("runr", "Runic"), ("samaritan", "Samaritan"), ("samr", "Samaritan"),
    ("sarb", "Old_South_Arabian"), ("saur", "Saurashtra"), ("saurashtra", "Saurashtra"),
    ("sgnw", "SignWriting"), ("sharada", "Sharada"), ("shavian", "Shavian"),
    ("shaw", "Shavian"), ("shrd", "Sharada"), ("sidd", "Siddham"), ("siddham", "Siddham"),
    ("signwriting", "SignWriting"), ("sind", "Khudawadi"), ("sinh", "Sinhala"),
    ("sinhala", "Sinhala"), ("sogd", "Sogdian"), ("sogdian", "Sogdian"),
    ("sogo", "Old_Sogdian"), ("sora", "Sora_Sompeng"), ("sorasompeng", "Sora_Sompeng"),
    ("soyo", "Soyombo"), ("soyombo", "Soyombo"), ("sund", "Sundanese"),
    ("sundanese", "Sundanese"), ("sunu", "Sunuwar"), ("sunuwar", "Sunuwar"),
    ("sylo", "Syloti_Nagri"), ("sylotinagri", "Syloti_Nagri"), ("syrc", "Syriac"),
    ("syriac", "Syriac"), ("tagalog", "Tagalog"), ("tagb", "Tagbanwa"),
    ("tagbanwa", "Tagbanwa"), ("taile", "Tai_Le"), ("taitham", "Tai_Tham"),
    ("taiviet", "Tai_Viet"), ("takr", "Takri"), ("takri", "Takri"), ("tale", "Tai_Le"),
    ("talu", "New_Tai_Lue"), ("tamil", "Tamil"), ("taml", "Tamil"), ("tang", "Tangut"),
    ("tangsa", "Tangsa"), ("tangut", "Tangut"), ("tavt", "Tai_Viet"), ("telu", "Telugu"),
    ("telugu", "Telugu"), ("tfng", "Tifinagh"), ("tglg", "Tagalog"), ("thaa", "Thaana"),
    ("thaana", "Thaana"), ("thai", "Thai"), ("tibetan", "Tibetan"), ("tibt", "Tibetan"),
    ("tifinagh", "Tifinagh"), ("tirh", "Tirhuta"), ("tirhuta", "Tirhuta"),
    ("tnsa", "Tangsa"), ("todhri", "Todhri"), ("todr", "Todhri"), ("toto", "Toto"),
    ("tulutigalari", "Tulu_Tigalari"), ("tutg", "Tulu_Tigalari"), ("ugar", "Ugaritic"),
    ("ugaritic", "Ugaritic"), ("unknown", "Unknown"), ("vai", "Vai"), ("vaii", "Vai"),
    ("vith", "Vithkuqi"), ("vithkuqi", "Vithkuqi"), ("wancho", "Wancho"),
    ("wara", "Warang_Citi"), ("warangciti", "Warang_Citi"), ("wcho", "Wancho"),
    ("xpeo", "Old_Persian"), ("xsux", "Cuneiform"), ("yezi", "Yezidi"), ("yezidi", "Yezidi"),
    ("yi", "Yi"), ("yiii", "Yi"), ("zanabazarsquare", "Zanabazar_Square"),
    ("zanb", "Zanabazar_Square"), ("zinh", "Inherited"), ("zyyy", "Common"),
    ("zzzz", "Unknown")]),
  ("Sentence_Break", [
    ("at", "ATerm"), ("aterm", "ATerm"), ("cl", "Close"), ("close", "Close"), ("cr", "CR"),
    ("ex", "Extend"), ("extend", "Extend"), ("fo", "Format"), ("format", "Format"),
    ("le", "OLetter"), ("lf", "LF"), ("lo", "Lower"), ("lower", "Lower"), ("nu", "Numeric"),
    ("numeric", "Numeric"), ("oletter", "OLetter"), ("other", "Other"), ("sc", "SContinue"),
    ("scontinue", "SContinue"), ("se", "Sep"), ("sep", "Sep"), ("sp", "Sp"), ("st", "STerm"),
    ("sterm", "STerm"), ("up", "Upper"), ("upper", "Upper"), ("xx", "Other")]),
  ("Word_Break", [
    ("aletter", "ALetter"), ("cr", "CR"), ("doublequote", "Double_Quote"),
    ("dq", "Double_Quote"), ("eb", "E_Base"), ("ebase", "E_Base"),
    ("ebasegaz", "E_Base_GAZ"), ("ebg", "E_Base_GAZ"), ("em", "E_Modifier"),
    ("emodifier", "E_Modifier"), ("ex", "ExtendNumLet"), ("extend", "Extend"),
    ("extendnumlet", "ExtendNumLet"), ("fo", "Format"), ("format", "Format"),
    ("gaz", "Glue_After_Zwj"), ("glueafterzwj", "Glue_After_Zwj"),
    ("hebrewletter", "Hebrew_Letter"), ("hl", "Hebrew_Letter"), ("ka", "Katakana"),
    ("katakana", "Katakana"), ("le", "ALetter"), ("lf", "LF"), ("mb", "MidNumLet"),
    ("midletter", "MidLetter"), ("midnum", "MidNum"), ("midnumlet", "MidNumLet"),
    ("ml", "MidLetter"), ("mn", "MidNum"), ("newline", "Newline"), ("nl", "Newline"),
    ("nu", "Numeric"), ("numeric", "Numeric"), ("other", "Other"),
    ("regionalindicator", "Regional_Indicator"), ("ri", "Regional_Indicator"),
    ("singlequote", "Single_Quote"), ("sq", "Single_Quote"), ("wsegspace", "WSegSpace"),
    ("xx", "Other"), ("zwj", "ZWJ")])]

end Arbor.Text
