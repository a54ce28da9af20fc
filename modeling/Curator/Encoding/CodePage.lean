/-! Encodings with one byte for each character. The first 128 bytes stand for ASCII in all of them.
-/
namespace Curator

/-- An encoding with one byte for each character. -/
structure CodePage where
  labels : List String
  /-- The characters for the bytes from 128 on. Some bytes have none, for which U+FFFD stands. -/
  upper : List String
deriving DecidableEq, Repr

namespace CodePage

def cyrillicTerminal : CodePage where
  labels :=
    ["866", "cp866", "csibm866", "ibm866"]
  upper :=
    ["АБВГДЕЖЗИЙКЛМНОПРСТУФХЦЧШЩЪЫЬЭЮЯ",
      "абвгдежзийклмноп░▒▓│┤╡╢╖╕╣║╗╝╜╛┐",
      "└┴┬├─┼╞╟╚╔╩╦╠═╬╧╨╤╥╙╘╒╓╫╪┘┌█▄▌▐▀",
      "рстуфхцчшщъыьэюяЁёЄєЇїЎў°∙·√№¤■\xa0"]

def latin2 : CodePage where
  labels :=
    ["csisolatin2", "iso-8859-2", "iso-ir-101", "iso8859-2", "iso88592", "iso_8859-2",
      "iso_8859-2:1987", "l2", "latin2"]
  upper :=
    ["\x80\x81\x82\x83\x84\x85\x86\x87\x88\x89\x8a\x8b\x8c\x8d\x8e\x8f",
      "\x90\x91\x92\x93\x94\x95\x96\x97\x98\x99\x9a\x9b\x9c\x9d\x9e\x9f",
      "\xa0Ą˘Ł¤ĽŚ§¨ŠŞŤŹ\xadŽŻ",
      "°ą˛ł´ľśˇ¸šşťź˝žż",
      "ŔÁÂĂÄĹĆÇČÉĘËĚÍÎĎ",
      "ĐŃŇÓÔŐÖ×ŘŮÚŰÜÝŢß",
      "ŕáâăäĺćçčéęëěíîď",
      "đńňóôőö÷řůúűüýţ˙"]

def latin3 : CodePage where
  labels :=
    ["csisolatin3", "iso-8859-3", "iso-ir-109", "iso8859-3", "iso88593", "iso_8859-3",
      "iso_8859-3:1988", "l3", "latin3"]
  upper :=
    ["\x80\x81\x82\x83\x84\x85\x86\x87\x88\x89\x8a\x8b\x8c\x8d\x8e\x8f",
      "\x90\x91\x92\x93\x94\x95\x96\x97\x98\x99\x9a\x9b\x9c\x9d\x9e\x9f",
      "\xa0Ħ˘£¤\ufffdĤ§¨İŞĞĴ\xad\ufffdŻ",
      "°ħ²³´µĥ·¸ışğĵ½\ufffdż",
      "ÀÁÂ\ufffdÄĊĈÇÈÉÊËÌÍÎÏ",
      "\ufffdÑÒÓÔĠÖ×ĜÙÚÛÜŬŜß",
      "àáâ\ufffdäċĉçèéêëìíîï",
      "\ufffdñòóôġö÷ĝùúûüŭŝ˙"]

def latin4 : CodePage where
  labels :=
    ["csisolatin4", "iso-8859-4", "iso-ir-110", "iso8859-4", "iso88594", "iso_8859-4",
      "iso_8859-4:1988", "l4", "latin4"]
  upper :=
    ["\x80\x81\x82\x83\x84\x85\x86\x87\x88\x89\x8a\x8b\x8c\x8d\x8e\x8f",
      "\x90\x91\x92\x93\x94\x95\x96\x97\x98\x99\x9a\x9b\x9c\x9d\x9e\x9f",
      "\xa0ĄĸŖ¤ĨĻ§¨ŠĒĢŦ\xadŽ¯",
      "°ą˛ŗ´ĩļˇ¸šēģŧŊžŋ",
      "ĀÁÂÃÄÅÆĮČÉĘËĖÍÎĪ",
      "ĐŅŌĶÔÕÖ×ØŲÚÛÜŨŪß",
      "āáâãäåæįčéęëėíîī",
      "đņōķôõö÷øųúûüũū˙"]

def cyrillicStandard : CodePage where
  labels :=
    ["csisolatincyrillic", "cyrillic", "iso-8859-5", "iso-ir-144", "iso8859-5", "iso88595",
      "iso_8859-5", "iso_8859-5:1988"]
  upper :=
    ["\x80\x81\x82\x83\x84\x85\x86\x87\x88\x89\x8a\x8b\x8c\x8d\x8e\x8f",
      "\x90\x91\x92\x93\x94\x95\x96\x97\x98\x99\x9a\x9b\x9c\x9d\x9e\x9f",
      "\xa0ЁЂЃЄЅІЇЈЉЊЋЌ\xadЎЏ",
      "АБВГДЕЖЗИЙКЛМНОП",
      "РСТУФХЦЧШЩЪЫЬЭЮЯ",
      "абвгдежзийклмноп",
      "рстуфхцчшщъыьэюя",
      "№ёђѓєѕіїјљњћќ§ўџ"]

def arabicStandard : CodePage where
  labels :=
    ["arabic", "asmo-708", "csiso88596e", "csiso88596i", "csisolatinarabic", "ecma-114",
      "iso-8859-6", "iso-8859-6-e", "iso-8859-6-i", "iso-ir-127", "iso8859-6", "iso88596",
      "iso_8859-6", "iso_8859-6:1987"]
  upper :=
    ["\x80\x81\x82\x83\x84\x85\x86\x87",
      "\x88\x89\x8a\x8b\x8c\x8d\x8e\x8f",
      "\x90\x91\x92\x93\x94\x95\x96\x97",
      "\x98\x99\x9a\x9b\x9c\x9d\x9e\x9f",
      "\xa0\ufffd\ufffd\ufffd¤\ufffd\ufffd\ufffd",
      "\ufffd\ufffd\ufffd\ufffd،\xad\ufffd\ufffd",
      "\ufffd\ufffd\ufffd\ufffd\ufffd\ufffd\ufffd\ufffd",
      "\ufffd\ufffd\ufffd\u061b\ufffd\ufffd\ufffd\u061f",
      "\ufffd\u0621\u0622\u0623\u0624\u0625\u0626\u0627",
      "\u0628\u0629\u062a\u062b\u062c\u062d\u062e\u062f",
      "\u0630\u0631\u0632\u0633\u0634\u0635\u0636\u0637",
      "\u0638\u0639\u063a\ufffd\ufffd\ufffd\ufffd\ufffd",
      "\u0640\u0641\u0642\u0643\u0644\u0645\u0646\u0647",
      "\u0648\u0649\u064a\u064b\u064c\u064d\u064e\u064f",
      "\u0650\u0651\u0652\ufffd\ufffd\ufffd\ufffd\ufffd",
      "\ufffd\ufffd\ufffd\ufffd\ufffd\ufffd\ufffd\ufffd"]

def greekStandard : CodePage where
  labels :=
    ["csisolatingreek", "ecma-118", "elot_928", "greek", "greek8", "iso-8859-7", "iso-ir-126",
      "iso8859-7", "iso88597", "iso_8859-7", "iso_8859-7:1987", "sun_eu_greek"]
  upper :=
    ["\x80\x81\x82\x83\x84\x85\x86\x87\x88\x89\x8a\x8b\x8c\x8d\x8e\x8f",
      "\x90\x91\x92\x93\x94\x95\x96\x97\x98\x99\x9a\x9b\x9c\x9d\x9e\x9f",
      "\xa0‘’£€₯¦§¨©ͺ«¬\xad\ufffd―",
      "°±²³΄΅Ά·ΈΉΊ»Ό½ΎΏ",
      "ΐΑΒΓΔΕΖΗΘΙΚΛΜΝΞΟ",
      "ΠΡ\ufffdΣΤΥΦΧΨΩΪΫάέήί",
      "ΰαβγδεζηθικλμνξο",
      "πρςστυφχψωϊϋόύώ\ufffd"]

def hebrewStandard : CodePage where
  labels :=
    ["csiso88598e", "csiso88598i", "csisolatinhebrew", "hebrew", "iso-8859-8", "iso-8859-8-e",
      "iso-8859-8-i", "iso-ir-138", "iso8859-8", "iso88598", "iso_8859-8", "iso_8859-8:1988",
      "logical", "visual"]
  upper :=
    ["\x80\x81\x82\x83\x84\x85\x86\x87",
      "\x88\x89\x8a\x8b\x8c\x8d\x8e\x8f",
      "\x90\x91\x92\x93\x94\x95\x96\x97",
      "\x98\x99\x9a\x9b\x9c\x9d\x9e\x9f",
      "\xa0\ufffd¢£¤¥¦§",
      "¨©×«¬\xad®¯",
      "°±²³´µ¶·",
      "¸¹÷»¼½¾\ufffd",
      "\ufffd\ufffd\ufffd\ufffd\ufffd\ufffd\ufffd\ufffd",
      "\ufffd\ufffd\ufffd\ufffd\ufffd\ufffd\ufffd\ufffd",
      "\ufffd\ufffd\ufffd\ufffd\ufffd\ufffd\ufffd\ufffd",
      "\ufffd\ufffd\ufffd\ufffd\ufffd\ufffd\ufffd‗",
      "\u05d0\u05d1\u05d2\u05d3\u05d4\u05d5\u05d6\u05d7",
      "\u05d8\u05d9\u05da\u05db\u05dc\u05dd\u05de\u05df",
      "\u05e0\u05e1\u05e2\u05e3\u05e4\u05e5\u05e6\u05e7",
      "\u05e8\u05e9\u05ea\ufffd\ufffd\u200e\u200f\ufffd"]

def latin6 : CodePage where
  labels :=
    ["csisolatin6", "iso-8859-10", "iso-ir-157", "iso8859-10", "iso885910", "l6", "latin6"]
  upper :=
    ["\x80\x81\x82\x83\x84\x85\x86\x87\x88\x89\x8a\x8b\x8c\x8d\x8e\x8f",
      "\x90\x91\x92\x93\x94\x95\x96\x97\x98\x99\x9a\x9b\x9c\x9d\x9e\x9f",
      "\xa0ĄĒĢĪĨĶ§ĻĐŠŦŽ\xadŪŊ",
      "°ąēģīĩķ·ļđšŧž―ūŋ",
      "ĀÁÂÃÄÅÆĮČÉĘËĖÍÎÏ",
      "ÐŅŌÓÔÕÖŨØŲÚÛÜÝÞß",
      "āáâãäåæįčéęëėíîï",
      "ðņōóôõöũøųúûüýþĸ"]

def latin7 : CodePage where
  labels :=
    ["iso-8859-13", "iso8859-13", "iso885913"]
  upper :=
    ["\x80\x81\x82\x83\x84\x85\x86\x87\x88\x89\x8a\x8b\x8c\x8d\x8e\x8f",
      "\x90\x91\x92\x93\x94\x95\x96\x97\x98\x99\x9a\x9b\x9c\x9d\x9e\x9f",
      "\xa0”¢£¤„¦§Ø©Ŗ«¬\xad®Æ",
      "°±²³“µ¶·ø¹ŗ»¼½¾æ",
      "ĄĮĀĆÄÅĘĒČÉŹĖĢĶĪĻ",
      "ŠŃŅÓŌÕÖ×ŲŁŚŪÜŻŽß",
      "ąįāćäåęēčéźėģķīļ",
      "šńņóōõö÷ųłśūüżž’"]

def latin8 : CodePage where
  labels :=
    ["iso-8859-14", "iso8859-14", "iso885914"]
  upper :=
    ["\x80\x81\x82\x83\x84\x85\x86\x87\x88\x89\x8a\x8b\x8c\x8d\x8e\x8f",
      "\x90\x91\x92\x93\x94\x95\x96\x97\x98\x99\x9a\x9b\x9c\x9d\x9e\x9f",
      "\xa0Ḃḃ£ĊċḊ§Ẁ©ẂḋỲ\xad®Ÿ",
      "ḞḟĠġṀṁ¶ṖẁṗẃṠỳẄẅṡ",
      "ÀÁÂÃÄÅÆÇÈÉÊËÌÍÎÏ",
      "ŴÑÒÓÔÕÖṪØÙÚÛÜÝŶß",
      "àáâãäåæçèéêëìíîï",
      "ŵñòóôõöṫøùúûüýŷÿ"]

/-- Latin letters of western Europe with the euro. -/
def latin9 : CodePage where
  labels :=
    ["csisolatin9", "iso-8859-15", "iso8859-15", "iso885915", "iso_8859-15", "l9"]
  upper :=
    ["\x80\x81\x82\x83\x84\x85\x86\x87\x88\x89\x8a\x8b\x8c\x8d\x8e\x8f",
      "\x90\x91\x92\x93\x94\x95\x96\x97\x98\x99\x9a\x9b\x9c\x9d\x9e\x9f",
      "\xa0¡¢£€¥Š§š©ª«¬\xad®¯",
      "°±²³Žµ¶·ž¹º»ŒœŸ¿",
      "ÀÁÂÃÄÅÆÇÈÉÊËÌÍÎÏ",
      "ÐÑÒÓÔÕÖ×ØÙÚÛÜÝÞß",
      "àáâãäåæçèéêëìíîï",
      "ðñòóôõö÷øùúûüýþÿ"]

def latin10 : CodePage where
  labels :=
    ["iso-8859-16"]
  upper :=
    ["\x80\x81\x82\x83\x84\x85\x86\x87\x88\x89\x8a\x8b\x8c\x8d\x8e\x8f",
      "\x90\x91\x92\x93\x94\x95\x96\x97\x98\x99\x9a\x9b\x9c\x9d\x9e\x9f",
      "\xa0ĄąŁ€„Š§š©Ș«Ź\xadźŻ",
      "°±ČłŽ”¶·žčș»ŒœŸż",
      "ÀÁÂĂÄĆÆÇÈÉÊËÌÍÎÏ",
      "ĐŃÒÓÔŐÖŚŰÙÚÛÜĘȚß",
      "àáâăäćæçèéêëìíîï",
      "đńòóôőöśűùúûüęțÿ"]

/-- Russian letters in the order of Latin ones. -/
def russianMail : CodePage where
  labels :=
    ["cskoi8r", "koi", "koi8", "koi8-r", "koi8_r"]
  upper :=
    ["─│┌┐└┘├┤┬┴┼▀▄█▌▐░▒▓⌠■∙√≈≤≥\xa0⌡°²·÷",
      "═║╒ё╓╔╕╖╗╘╙╚╛╜╝╞╟╠╡Ё╢╣╤╥╦╧╨╩╪╫╬©",
      "юабцдефгхийклмнопярстужвьызшэщчъ",
      "ЮАБЦДЕФГХИЙКЛМНОПЯРСТУЖВЬЫЗШЭЩЧЪ"]

/-- Ukrainian letters in the order of Latin ones. -/
def ukrainianMail : CodePage where
  labels :=
    ["koi8-ru", "koi8-u"]
  upper :=
    ["─│┌┐└┘├┤┬┴┼▀▄█▌▐░▒▓⌠■∙√≈≤≥\xa0⌡°²·÷",
      "═║╒ёє╔ії╗╘╙╚╛ґў╞╟╠╡ЁЄ╣ІЇ╦╧╨╩╪ҐЎ©",
      "юабцдефгхийклмнопярстужвьызшэщчъ",
      "ЮАБЦДЕФГХИЙКЛМНОПЯРСТУЖВЬЫЗШЭЩЧЪ"]

def romanDesktop : CodePage where
  labels :=
    ["csmacintosh", "mac", "macintosh", "x-mac-roman"]
  upper :=
    ["ÄÅÇÉÑÖÜáàâäãåçéèêëíìîïñóòôöõúùûü",
      "†°¢£§•¶ß®©™´¨≠ÆØ∞±≤≥¥µ∂∑∏π∫ªºΩæø",
      "¿¡¬√ƒ≈∆«»…\xa0ÀÃÕŒœ–—“”‘’÷◊ÿŸ⁄€‹›ﬁﬂ",
      "‡·‚„‰ÂÊÁËÈÍÎÏÌÓÔ\uf8ffÒÚÛÙıˆ˜¯˘˙˚¸˝˛ˇ"]

def thai : CodePage where
  labels :=
    ["dos-874", "iso-8859-11", "iso8859-11", "iso885911", "tis-620", "windows-874"]
  upper :=
    ["€\x81\x82\x83\x84…\x86\x87\x88\x89\x8a\x8b\x8c\x8d\x8e\x8f",
      "\x90‘’“”•–—\x98\x99\x9a\x9b\x9c\x9d\x9e\x9f",
      "\xa0กขฃคฅฆงจฉชซฌญฎฏ",
      "ฐฑฒณดตถทธนบปผฝพฟ",
      "ภมยรฤลฦวศษสหฬอฮฯ",
      "ะ\u0e31าำ\u0e34\u0e35\u0e36\u0e37\u0e38\u0e39\u0e3a\ufffd\ufffd\ufffd\ufffd฿",
      "เแโใไๅๆ\u0e47\u0e48\u0e49\u0e4a\u0e4b\u0e4c\u0e4d\u0e4e๏",
      "๐๑๒๓๔๕๖๗๘๙๚๛\ufffd\ufffd\ufffd\ufffd"]

/-- Latin letters of central Europe with typographic marks. -/
def centralEuropean : CodePage where
  labels :=
    ["cp1250", "windows-1250", "x-cp1250"]
  upper :=
    ["€\x81‚\x83„…†‡\x88‰Š‹ŚŤŽŹ\x90‘’“”•–—\x98™š›śťžź",
      "\xa0ˇ˘Ł¤Ą¦§¨©Ş«¬\xad®Ż°±˛ł´µ¶·¸ąş»Ľ˝ľż",
      "ŔÁÂĂÄĹĆÇČÉĘËĚÍÎĎĐŃŇÓÔŐÖ×ŘŮÚŰÜÝŢß",
      "ŕáâăäĺćçčéęëěíîďđńňóôőö÷řůúűüýţ˙"]

def cyrillic : CodePage where
  labels :=
    ["cp1251", "windows-1251", "x-cp1251"]
  upper :=
    ["ЂЃ‚ѓ„…†‡€‰Љ‹ЊЌЋЏђ‘’“”•–—\x98™љ›њќћџ",
      "\xa0ЎўЈ¤Ґ¦§Ё©Є«¬\xad®Ї°±Ііґµ¶·ё№є»јЅѕї",
      "АБВГДЕЖЗИЙКЛМНОПРСТУФХЦЧШЩЪЫЬЭЮЯ",
      "абвгдежзийклмнопрстуфхцчшщъыьэюя"]

/-- Latin letters of western Europe with typographic marks. -/
def western : CodePage where
  labels :=
    ["ansi_x3.4-1968", "ascii", "cp1252", "cp819", "csisolatin1", "ibm819", "iso-8859-1",
      "iso-ir-100", "iso8859-1", "iso88591", "iso_8859-1", "iso_8859-1:1987", "l1", "latin1",
      "us-ascii", "windows-1252", "x-cp1252"]
  upper :=
    ["€\x81‚ƒ„…†‡ˆ‰Š‹Œ\x8dŽ\x8f\x90‘’“”•–—˜™š›œ\x9džŸ",
      "\xa0¡¢£¤¥¦§¨©ª«¬\xad®¯°±²³´µ¶·¸¹º»¼½¾¿",
      "ÀÁÂÃÄÅÆÇÈÉÊËÌÍÎÏÐÑÒÓÔÕÖ×ØÙÚÛÜÝÞß",
      "àáâãäåæçèéêëìíîïðñòóôõö÷øùúûüýþÿ"]

def greek : CodePage where
  labels :=
    ["cp1253", "windows-1253", "x-cp1253"]
  upper :=
    ["€\x81‚ƒ„…†‡\x88‰\x8a‹\x8c\x8d\x8e\x8f\x90‘’“”•–—\x98™\x9a›\x9c\x9d\x9e\x9f",
      "\xa0΅Ά£¤¥¦§¨©\ufffd«¬\xad®―°±²³΄µ¶·ΈΉΊ»Ό½ΎΏ",
      "ΐΑΒΓΔΕΖΗΘΙΚΛΜΝΞΟΠΡ\ufffdΣΤΥΦΧΨΩΪΫάέήί",
      "ΰαβγδεζηθικλμνξοπρςστυφχψωϊϋόύώ\ufffd"]

def turkish : CodePage where
  labels :=
    ["cp1254", "csisolatin5", "iso-8859-9", "iso-ir-148", "iso8859-9", "iso88599", "iso_8859-9",
      "iso_8859-9:1989", "l5", "latin5", "windows-1254", "x-cp1254"]
  upper :=
    ["€\x81‚ƒ„…†‡ˆ‰Š‹Œ\x8d\x8e\x8f\x90‘’“”•–—˜™š›œ\x9d\x9eŸ",
      "\xa0¡¢£¤¥¦§¨©ª«¬\xad®¯°±²³´µ¶·¸¹º»¼½¾¿",
      "ÀÁÂÃÄÅÆÇÈÉÊËÌÍÎÏĞÑÒÓÔÕÖ×ØÙÚÛÜİŞß",
      "àáâãäåæçèéêëìíîïğñòóôõö÷øùúûüışÿ"]

def hebrew : CodePage where
  labels :=
    ["cp1255", "windows-1255", "x-cp1255"]
  upper :=
    ["€\x81‚ƒ„…†‡",
      "ˆ‰\x8a‹\x8c\x8d\x8e\x8f",
      "\x90‘’“”•–—",
      "˜™\x9a›\x9c\x9d\x9e\x9f",
      "\xa0¡¢£₪¥¦§",
      "¨©×«¬\xad®¯",
      "°±²³´µ¶·",
      "¸¹÷»¼½¾¿",
      "\u05b0\u05b1\u05b2\u05b3\u05b4\u05b5\u05b6\u05b7",
      "\u05b8\u05b9\u05ba\u05bb\u05bc\u05bd\u05be\u05bf",
      "\u05c0\u05c1\u05c2\u05c3\u05f0\u05f1\u05f2\u05f3",
      "\u05f4\ufffd\ufffd\ufffd\ufffd\ufffd\ufffd\ufffd",
      "\u05d0\u05d1\u05d2\u05d3\u05d4\u05d5\u05d6\u05d7",
      "\u05d8\u05d9\u05da\u05db\u05dc\u05dd\u05de\u05df",
      "\u05e0\u05e1\u05e2\u05e3\u05e4\u05e5\u05e6\u05e7",
      "\u05e8\u05e9\u05ea\ufffd\ufffd\u200e\u200f\ufffd"]

def arabic : CodePage where
  labels :=
    ["cp1256", "windows-1256", "x-cp1256"]
  upper :=
    ["€\u067e‚ƒ„…†‡",
      "ˆ‰\u0679‹Œ\u0686\u0698\u0688",
      "\u06af‘’“”•–—",
      "\u06a9™\u0691›œ\u200c\u200d\u06ba",
      "\xa0،¢£¤¥¦§",
      "¨©\u06be«¬\xad®¯",
      "°±²³´µ¶·",
      "¸¹\u061b»¼½¾\u061f",
      "\u06c1\u0621\u0622\u0623\u0624\u0625\u0626\u0627",
      "\u0628\u0629\u062a\u062b\u062c\u062d\u062e\u062f",
      "\u0630\u0631\u0632\u0633\u0634\u0635\u0636×",
      "\u0637\u0638\u0639\u063a\u0640\u0641\u0642\u0643",
      "à\u0644â\u0645\u0646\u0647\u0648ç",
      "èéêë\u0649\u064aîï",
      "\u064b\u064c\u064d\u064eô\u064f\u0650÷",
      "\u0651ù\u0652ûü\u200e\u200f\u06d2"]

/-- Latin letters around the Baltic sea with typographic marks. -/
def baltic : CodePage where
  labels :=
    ["cp1257", "windows-1257", "x-cp1257"]
  upper :=
    ["€\x81‚\x83„…†‡\x88‰\x8a‹\x8c¨ˇ¸\x90‘’“”•–—\x98™\x9a›\x9c¯˛\x9f",
      "\xa0\ufffd¢£¤\ufffd¦§Ø©Ŗ«¬\xad®Æ°±²³´µ¶·ø¹ŗ»¼½¾æ",
      "ĄĮĀĆÄÅĘĒČÉŹĖĢĶĪĻŠŃŅÓŌÕÖ×ŲŁŚŪÜŻŽß",
      "ąįāćäåęēčéźėģķīļšńņóōõö÷ųłśūüżž˙"]

def vietnamese : CodePage where
  labels :=
    ["cp1258", "windows-1258", "x-cp1258"]
  upper :=
    ["€\x81‚ƒ„…†‡ˆ‰\x8a‹Œ\x8d\x8e\x8f\x90‘’“”•–—˜™\x9a›œ\x9d\x9eŸ",
      "\xa0¡¢£¤¥¦§¨©ª«¬\xad®¯°±²³´µ¶·¸¹º»¼½¾¿",
      "ÀÁÂĂÄÅÆÇÈÉÊË\u0300ÍÎÏĐÑ\u0309ÓÔƠÖ×ØÙÚÛÜƯ\u0303ß",
      "àáâăäåæçèéêë\u0301íîïđñ\u0323óôơö÷øùúûüư₫ÿ"]

def cyrillicDesktop : CodePage where
  labels :=
    ["x-mac-cyrillic", "x-mac-ukrainian"]
  upper :=
    ["АБВГДЕЖЗИЙКЛМНОПРСТУФХЦЧШЩЪЫЬЭЮЯ",
      "†°Ґ£§•¶І®©™Ђђ≠Ѓѓ∞±≤≥іµґЈЄєЇїЉљЊњ",
      "јЅ¬√ƒ≈∆«»…\xa0ЋћЌќѕ–—“”‘’÷„ЎўЏџ№Ёёя",
      "абвгдежзийклмнопрстуфхцчшщъыьэю€"]

/-- Every encoding with one byte for each character. -/
def all : List CodePage :=
  [cyrillicTerminal, latin2, latin3, latin4, cyrillicStandard, arabicStandard, greekStandard,
    hebrewStandard, latin6, latin7, latin8, latin9, latin10, russianMail, ukrainianMail,
    romanDesktop, thai, centralEuropean, cyrillic, western, greek, turkish, hebrew, arabic,
    baltic, vietnamese, cyrillicDesktop]

def ofLabel? (label : String) : Option CodePage :=
  all.find? (·.labels.contains label)

/-- The characters for the bytes from 128 on, in one piece. -/
def characters (page : CodePage) : Array Char :=
  (page.upper.flatMap String.toList).toArray

/-- The text that bytes, each given as the character with its number, stand for. -/
def decode? (page : CodePage) (octets : List Char) : Option (List Char) :=
  let characters := page.characters
  octets.mapM fun octet =>
    if octet.toNat < 128 then some octet
    else characters[octet.toNat - 128]?.filter (· != '\ufffd')

end CodePage

end Curator
