import ModuleGlue.Text.NameTable.Basic

/-!
Contract: further names of characters.

Characters without a name of their own, such as controls, have some, and so have those whose own
name is wrong or long.

Owns: these names.
-/

namespace ModuleGlue.Text

def aliasesFrom0000 : List (String × Nat) :=
  [("NULL", 0x0000), ("NUL", 0x0000), ("START OF HEADING", 0x0001), ("SOH", 0x0001),
    ("START OF TEXT", 0x0002), ("STX", 0x0002), ("END OF TEXT", 0x0003), ("ETX", 0x0003),
    ("END OF TRANSMISSION", 0x0004), ("EOT", 0x0004), ("ENQUIRY", 0x0005), ("ENQ", 0x0005),
    ("ACKNOWLEDGE", 0x0006), ("ACK", 0x0006), ("ALERT", 0x0007), ("BEL", 0x0007),
    ("BACKSPACE", 0x0008), ("BS", 0x0008), ("CHARACTER TABULATION", 0x0009),
    ("HORIZONTAL TABULATION", 0x0009), ("HT", 0x0009), ("TAB", 0x0009), ("LINE FEED", 0x000a),
    ("NEW LINE", 0x000a), ("END OF LINE", 0x000a), ("EOL", 0x000a), ("LF", 0x000a),
    ("NL", 0x000a), ("LINE TABULATION", 0x000b), ("VERTICAL TABULATION", 0x000b), ("VT", 0x000b),
    ("FORM FEED", 0x000c), ("FF", 0x000c), ("CARRIAGE RETURN", 0x000d), ("CR", 0x000d),
    ("SHIFT OUT", 0x000e), ("LOCKING-SHIFT ONE", 0x000e), ("SO", 0x000e), ("SHIFT IN", 0x000f),
    ("LOCKING-SHIFT ZERO", 0x000f), ("SI", 0x000f), ("DATA LINK ESCAPE", 0x0010),
    ("DLE", 0x0010), ("DEVICE CONTROL ONE", 0x0011), ("DC1", 0x0011),
    ("DEVICE CONTROL TWO", 0x0012), ("DC2", 0x0012), ("DEVICE CONTROL THREE", 0x0013),
    ("DC3", 0x0013), ("DEVICE CONTROL FOUR", 0x0014), ("DC4", 0x0014),
    ("NEGATIVE ACKNOWLEDGE", 0x0015), ("NAK", 0x0015), ("SYNCHRONOUS IDLE", 0x0016),
    ("SYN", 0x0016), ("END OF TRANSMISSION BLOCK", 0x0017), ("ETB", 0x0017), ("CANCEL", 0x0018),
    ("CAN", 0x0018), ("END OF MEDIUM", 0x0019), ("EOM", 0x0019), ("SUBSTITUTE", 0x001a),
    ("SUB", 0x001a), ("ESCAPE", 0x001b), ("ESC", 0x001b), ("INFORMATION SEPARATOR FOUR", 0x001c),
    ("FILE SEPARATOR", 0x001c), ("FS", 0x001c), ("INFORMATION SEPARATOR THREE", 0x001d),
    ("GROUP SEPARATOR", 0x001d), ("GS", 0x001d), ("INFORMATION SEPARATOR TWO", 0x001e),
    ("RECORD SEPARATOR", 0x001e), ("RS", 0x001e), ("INFORMATION SEPARATOR ONE", 0x001f),
    ("UNIT SEPARATOR", 0x001f), ("US", 0x001f), ("SP", 0x0020), ("DELETE", 0x007f),
    ("DEL", 0x007f), ("PADDING CHARACTER", 0x0080), ("PAD", 0x0080),
    ("HIGH OCTET PRESET", 0x0081), ("HOP", 0x0081), ("BREAK PERMITTED HERE", 0x0082),
    ("BPH", 0x0082), ("NO BREAK HERE", 0x0083), ("NBH", 0x0083), ("INDEX", 0x0084),
    ("IND", 0x0084), ("NEXT LINE", 0x0085), ("NEL", 0x0085), ("START OF SELECTED AREA", 0x0086),
    ("SSA", 0x0086), ("END OF SELECTED AREA", 0x0087), ("ESA", 0x0087),
    ("CHARACTER TABULATION SET", 0x0088), ("HORIZONTAL TABULATION SET", 0x0088), ("HTS", 0x0088),
    ("CHARACTER TABULATION WITH JUSTIFICATION", 0x0089),
    ("HORIZONTAL TABULATION WITH JUSTIFICATION", 0x0089), ("HTJ", 0x0089),
    ("LINE TABULATION SET", 0x008a), ("VERTICAL TABULATION SET", 0x008a), ("VTS", 0x008a),
    ("PARTIAL LINE FORWARD", 0x008b), ("PARTIAL LINE DOWN", 0x008b), ("PLD", 0x008b),
    ("PARTIAL LINE BACKWARD", 0x008c), ("PARTIAL LINE UP", 0x008c), ("PLU", 0x008c),
    ("REVERSE LINE FEED", 0x008d), ("REVERSE INDEX", 0x008d), ("RI", 0x008d),
    ("SINGLE SHIFT TWO", 0x008e), ("SINGLE-SHIFT-2", 0x008e), ("SS2", 0x008e),
    ("SINGLE SHIFT THREE", 0x008f), ("SINGLE-SHIFT-3", 0x008f), ("SS3", 0x008f)]

def aliasesFrom0090 : List (String × Nat) :=
  [("DEVICE CONTROL STRING", 0x0090), ("DCS", 0x0090), ("PRIVATE USE ONE", 0x0091),
    ("PRIVATE USE-1", 0x0091), ("PU1", 0x0091), ("PRIVATE USE TWO", 0x0092),
    ("PRIVATE USE-2", 0x0092), ("PU2", 0x0092), ("SET TRANSMIT STATE", 0x0093), ("STS", 0x0093),
    ("CANCEL CHARACTER", 0x0094), ("CCH", 0x0094), ("MESSAGE WAITING", 0x0095), ("MW", 0x0095),
    ("START OF GUARDED AREA", 0x0096), ("START OF PROTECTED AREA", 0x0096), ("SPA", 0x0096),
    ("END OF GUARDED AREA", 0x0097), ("END OF PROTECTED AREA", 0x0097), ("EPA", 0x0097),
    ("START OF STRING", 0x0098), ("SOS", 0x0098),
    ("SINGLE GRAPHIC CHARACTER INTRODUCER", 0x0099), ("SGC", 0x0099),
    ("SINGLE CHARACTER INTRODUCER", 0x009a), ("SCI", 0x009a),
    ("CONTROL SEQUENCE INTRODUCER", 0x009b), ("CSI", 0x009b), ("STRING TERMINATOR", 0x009c),
    ("ST", 0x009c), ("OPERATING SYSTEM COMMAND", 0x009d), ("OSC", 0x009d),
    ("PRIVACY MESSAGE", 0x009e), ("PM", 0x009e), ("APPLICATION PROGRAM COMMAND", 0x009f),
    ("APC", 0x009f), ("NBSP", 0x00a0), ("SHY", 0x00ad), ("LATIN CAPITAL LETTER GHA", 0x01a2),
    ("LATIN SMALL LETTER GHA", 0x01a3), ("CGJ", 0x034f), ("ALM", 0x061c),
    ("SYRIAC SUBLINEAR COLON SKEWED LEFT", 0x0709), ("KANNADA LETTER LLLA", 0x0cde),
    ("LAO LETTER FO FON", 0x0e9d), ("LAO LETTER FO FAY", 0x0e9f), ("LAO LETTER RO", 0x0ea3),
    ("LAO LETTER LO", 0x0ea5), ("TIBETAN MARK BKA- SHOG GI MGO RGYAN", 0x0fd0),
    ("HANGUL JONGSEONG YESIEUNG-KIYEOK", 0x11ec),
    ("HANGUL JONGSEONG YESIEUNG-SSANGKIYEOK", 0x11ed),
    ("HANGUL JONGSEONG SSANGYESIEUNG", 0x11ee), ("HANGUL JONGSEONG YESIEUNG-KHIEUKH", 0x11ef),
    ("FVS1", 0x180b), ("FVS2", 0x180c), ("FVS3", 0x180d), ("MVS", 0x180e), ("FVS4", 0x180f),
    ("ZWSP", 0x200b), ("ZWNJ", 0x200c), ("ZWJ", 0x200d), ("LRM", 0x200e), ("RLM", 0x200f),
    ("LRE", 0x202a), ("RLE", 0x202b), ("PDF", 0x202c), ("LRO", 0x202d), ("RLO", 0x202e),
    ("NNBSP", 0x202f), ("MMSP", 0x205f), ("WJ", 0x2060), ("LRI", 0x2066), ("RLI", 0x2067),
    ("FSI", 0x2068), ("PDI", 0x2069), ("WEIERSTRASS ELLIPTIC FUNCTION", 0x2118),
    ("MICR ON US SYMBOL", 0x2448), ("MICR DASH SYMBOL", 0x2449),
    ("LEFTWARDS TRIANGLE-HEADED ARROW WITH DOUBLE VERTICAL STROKE", 0x2b7a),
    ("RIGHTWARDS TRIANGLE-HEADED ARROW WITH DOUBLE VERTICAL STROKE", 0x2b7c),
    ("YI SYLLABLE ITERATION MARK", 0xa015), ("MYANMAR LETTER KHAMTI LLA", 0xaa6e),
    ("VS1", 0xfe00), ("VS2", 0xfe01), ("VS3", 0xfe02), ("VS4", 0xfe03), ("VS5", 0xfe04),
    ("VS6", 0xfe05), ("VS7", 0xfe06), ("VS8", 0xfe07), ("VS9", 0xfe08), ("VS10", 0xfe09),
    ("VS11", 0xfe0a), ("VS12", 0xfe0b), ("VS13", 0xfe0c), ("VS14", 0xfe0d), ("VS15", 0xfe0e),
    ("VS16", 0xfe0f), ("PRESENTATION FORM FOR VERTICAL RIGHT WHITE LENTICULAR BRACKET", 0xfe18),
    ("BYTE ORDER MARK", 0xfeff), ("BOM", 0xfeff), ("ZWNBSP", 0xfeff),
    ("CUNEIFORM SIGN NU11 TENU", 0x122d4),
    ("CUNEIFORM SIGN NU11 OVER NU11 BUR OVER BUR", 0x122d5),
    ("MEDEFAIDRIN CAPITAL LETTER H", 0x16e56), ("MEDEFAIDRIN CAPITAL LETTER NG", 0x16e57),
    ("MEDEFAIDRIN SMALL LETTER H", 0x16e76), ("MEDEFAIDRIN SMALL LETTER NG", 0x16e77),
    ("HENTAIGANA LETTER E-1", 0x1b001),
    ("BYZANTINE MUSICAL SYMBOL FTHORA SKLIRON CHROMA VASIS", 0x1d0c5), ("VS17", 0xe0100),
    ("VS18", 0xe0101), ("VS19", 0xe0102), ("VS20", 0xe0103), ("VS21", 0xe0104),
    ("VS22", 0xe0105), ("VS23", 0xe0106), ("VS24", 0xe0107), ("VS25", 0xe0108),
    ("VS26", 0xe0109)]

def aliasesFromE010A : List (String × Nat) :=
  [("VS27", 0xe010a), ("VS28", 0xe010b), ("VS29", 0xe010c), ("VS30", 0xe010d), ("VS31", 0xe010e),
    ("VS32", 0xe010f), ("VS33", 0xe0110), ("VS34", 0xe0111), ("VS35", 0xe0112),
    ("VS36", 0xe0113), ("VS37", 0xe0114), ("VS38", 0xe0115), ("VS39", 0xe0116),
    ("VS40", 0xe0117), ("VS41", 0xe0118), ("VS42", 0xe0119), ("VS43", 0xe011a),
    ("VS44", 0xe011b), ("VS45", 0xe011c), ("VS46", 0xe011d), ("VS47", 0xe011e),
    ("VS48", 0xe011f), ("VS49", 0xe0120), ("VS50", 0xe0121), ("VS51", 0xe0122),
    ("VS52", 0xe0123), ("VS53", 0xe0124), ("VS54", 0xe0125), ("VS55", 0xe0126),
    ("VS56", 0xe0127), ("VS57", 0xe0128), ("VS58", 0xe0129), ("VS59", 0xe012a),
    ("VS60", 0xe012b), ("VS61", 0xe012c), ("VS62", 0xe012d), ("VS63", 0xe012e),
    ("VS64", 0xe012f), ("VS65", 0xe0130), ("VS66", 0xe0131), ("VS67", 0xe0132),
    ("VS68", 0xe0133), ("VS69", 0xe0134), ("VS70", 0xe0135), ("VS71", 0xe0136),
    ("VS72", 0xe0137), ("VS73", 0xe0138), ("VS74", 0xe0139), ("VS75", 0xe013a),
    ("VS76", 0xe013b), ("VS77", 0xe013c), ("VS78", 0xe013d), ("VS79", 0xe013e),
    ("VS80", 0xe013f), ("VS81", 0xe0140), ("VS82", 0xe0141), ("VS83", 0xe0142),
    ("VS84", 0xe0143), ("VS85", 0xe0144), ("VS86", 0xe0145), ("VS87", 0xe0146),
    ("VS88", 0xe0147), ("VS89", 0xe0148), ("VS90", 0xe0149), ("VS91", 0xe014a),
    ("VS92", 0xe014b), ("VS93", 0xe014c), ("VS94", 0xe014d), ("VS95", 0xe014e),
    ("VS96", 0xe014f), ("VS97", 0xe0150), ("VS98", 0xe0151), ("VS99", 0xe0152),
    ("VS100", 0xe0153), ("VS101", 0xe0154), ("VS102", 0xe0155), ("VS103", 0xe0156),
    ("VS104", 0xe0157), ("VS105", 0xe0158), ("VS106", 0xe0159), ("VS107", 0xe015a),
    ("VS108", 0xe015b), ("VS109", 0xe015c), ("VS110", 0xe015d), ("VS111", 0xe015e),
    ("VS112", 0xe015f), ("VS113", 0xe0160), ("VS114", 0xe0161), ("VS115", 0xe0162),
    ("VS116", 0xe0163), ("VS117", 0xe0164), ("VS118", 0xe0165), ("VS119", 0xe0166),
    ("VS120", 0xe0167), ("VS121", 0xe0168), ("VS122", 0xe0169), ("VS123", 0xe016a),
    ("VS124", 0xe016b), ("VS125", 0xe016c), ("VS126", 0xe016d), ("VS127", 0xe016e),
    ("VS128", 0xe016f), ("VS129", 0xe0170), ("VS130", 0xe0171), ("VS131", 0xe0172),
    ("VS132", 0xe0173), ("VS133", 0xe0174), ("VS134", 0xe0175), ("VS135", 0xe0176),
    ("VS136", 0xe0177), ("VS137", 0xe0178), ("VS138", 0xe0179), ("VS139", 0xe017a),
    ("VS140", 0xe017b), ("VS141", 0xe017c), ("VS142", 0xe017d), ("VS143", 0xe017e),
    ("VS144", 0xe017f), ("VS145", 0xe0180), ("VS146", 0xe0181)]

def aliasesFromE0182 : List (String × Nat) :=
  [("VS147", 0xe0182), ("VS148", 0xe0183), ("VS149", 0xe0184), ("VS150", 0xe0185),
    ("VS151", 0xe0186), ("VS152", 0xe0187), ("VS153", 0xe0188), ("VS154", 0xe0189),
    ("VS155", 0xe018a), ("VS156", 0xe018b), ("VS157", 0xe018c), ("VS158", 0xe018d),
    ("VS159", 0xe018e), ("VS160", 0xe018f), ("VS161", 0xe0190), ("VS162", 0xe0191),
    ("VS163", 0xe0192), ("VS164", 0xe0193), ("VS165", 0xe0194), ("VS166", 0xe0195),
    ("VS167", 0xe0196), ("VS168", 0xe0197), ("VS169", 0xe0198), ("VS170", 0xe0199),
    ("VS171", 0xe019a), ("VS172", 0xe019b), ("VS173", 0xe019c), ("VS174", 0xe019d),
    ("VS175", 0xe019e), ("VS176", 0xe019f), ("VS177", 0xe01a0), ("VS178", 0xe01a1),
    ("VS179", 0xe01a2), ("VS180", 0xe01a3), ("VS181", 0xe01a4), ("VS182", 0xe01a5),
    ("VS183", 0xe01a6), ("VS184", 0xe01a7), ("VS185", 0xe01a8), ("VS186", 0xe01a9),
    ("VS187", 0xe01aa), ("VS188", 0xe01ab), ("VS189", 0xe01ac), ("VS190", 0xe01ad),
    ("VS191", 0xe01ae), ("VS192", 0xe01af), ("VS193", 0xe01b0), ("VS194", 0xe01b1),
    ("VS195", 0xe01b2), ("VS196", 0xe01b3), ("VS197", 0xe01b4), ("VS198", 0xe01b5),
    ("VS199", 0xe01b6), ("VS200", 0xe01b7), ("VS201", 0xe01b8), ("VS202", 0xe01b9),
    ("VS203", 0xe01ba), ("VS204", 0xe01bb), ("VS205", 0xe01bc), ("VS206", 0xe01bd),
    ("VS207", 0xe01be), ("VS208", 0xe01bf), ("VS209", 0xe01c0), ("VS210", 0xe01c1),
    ("VS211", 0xe01c2), ("VS212", 0xe01c3), ("VS213", 0xe01c4), ("VS214", 0xe01c5),
    ("VS215", 0xe01c6), ("VS216", 0xe01c7), ("VS217", 0xe01c8), ("VS218", 0xe01c9),
    ("VS219", 0xe01ca), ("VS220", 0xe01cb), ("VS221", 0xe01cc), ("VS222", 0xe01cd),
    ("VS223", 0xe01ce), ("VS224", 0xe01cf), ("VS225", 0xe01d0), ("VS226", 0xe01d1),
    ("VS227", 0xe01d2), ("VS228", 0xe01d3), ("VS229", 0xe01d4), ("VS230", 0xe01d5),
    ("VS231", 0xe01d6), ("VS232", 0xe01d7), ("VS233", 0xe01d8), ("VS234", 0xe01d9),
    ("VS235", 0xe01da), ("VS236", 0xe01db), ("VS237", 0xe01dc), ("VS238", 0xe01dd),
    ("VS239", 0xe01de), ("VS240", 0xe01df), ("VS241", 0xe01e0), ("VS242", 0xe01e1),
    ("VS243", 0xe01e2), ("VS244", 0xe01e3), ("VS245", 0xe01e4), ("VS246", 0xe01e5),
    ("VS247", 0xe01e6), ("VS248", 0xe01e7), ("VS249", 0xe01e8), ("VS250", 0xe01e9),
    ("VS251", 0xe01ea), ("VS252", 0xe01eb), ("VS253", 0xe01ec), ("VS254", 0xe01ed),
    ("VS255", 0xe01ee), ("VS256", 0xe01ef)]

/-- Further names, with the characters that they stand for. -/
def aliases : List (String × Nat) :=
  aliasesFrom0000 ++ aliasesFrom0090 ++ aliasesFromE010A ++ aliasesFromE0182

end ModuleGlue.Text
