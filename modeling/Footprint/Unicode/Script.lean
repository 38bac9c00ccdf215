import Footprint.Unicode.Category

/-!
# Scripts

The script of every code point that has one.
-/

namespace Footprint.Unicode

/-- The normalised names of the scripts, the short one first, in the order in which the table
numbers them. -/
def scriptNames : List (String × String) :=
  [("adlm", "adlam"), ("ahom", "ahom"), ("hluw", "anatolianhieroglyphs"), ("arab", "arabic"),
    ("armn", "armenian"), ("avst", "avestan"), ("bali", "balinese"), ("bamu", "bamum"),
    ("bass", "bassavah"), ("batk", "batak"), ("beng", "bengali"), ("bhks", "bhaiksuki"),
    ("bopo", "bopomofo"), ("brah", "brahmi"), ("brai", "braille"), ("bugi", "buginese"),
    ("buhd", "buhid"), ("cans", "canadianaboriginal"), ("cari", "carian"),
    ("aghb", "caucasianalbanian"), ("cakm", "chakma"), ("cham", "cham"), ("cher", "cherokee"),
    ("chrs", "chorasmian"), ("zyyy", "common"), ("copt", "coptic"), ("xsux", "cuneiform"),
    ("cprt", "cypriot"), ("cpmn", "cyprominoan"), ("cyrl", "cyrillic"), ("dsrt", "deseret"),
    ("deva", "devanagari"), ("diak", "divesakuru"), ("dogr", "dogra"), ("dupl", "duployan"),
    ("egyp", "egyptianhieroglyphs"), ("elba", "elbasan"), ("elym", "elymaic"), ("ethi", "ethiopic"),
    ("gara", "garay"), ("geor", "georgian"), ("glag", "glagolitic"), ("goth", "gothic"),
    ("gran", "grantha"), ("grek", "greek"), ("gujr", "gujarati"), ("gong", "gunjalagondi"),
    ("guru", "gurmukhi"), ("gukh", "gurungkhema"), ("hani", "han"), ("hang", "hangul"),
    ("rohg", "hanifirohingya"), ("hano", "hanunoo"), ("hatr", "hatran"), ("hebr", "hebrew"),
    ("hira", "hiragana"), ("armi", "imperialaramaic"), ("zinh", "inherited"),
    ("phli", "inscriptionalpahlavi"), ("prti", "inscriptionalparthian"), ("java", "javanese"),
    ("kthi", "kaithi"), ("knda", "kannada"), ("kana", "katakana"), ("kawi", "kawi"),
    ("kali", "kayahli"), ("khar", "kharoshthi"), ("kits", "khitansmallscript"), ("khmr", "khmer"),
    ("khoj", "khojki"), ("sind", "khudawadi"), ("krai", "kiratrai"), ("laoo", "lao"),
    ("latn", "latin"), ("lepc", "lepcha"), ("limb", "limbu"), ("lina", "lineara"),
    ("linb", "linearb"), ("lisu", "lisu"), ("lyci", "lycian"), ("lydi", "lydian"),
    ("mahj", "mahajani"), ("maka", "makasar"), ("mlym", "malayalam"), ("mand", "mandaic"),
    ("mani", "manichaean"), ("marc", "marchen"), ("gonm", "masaramgondi"), ("medf", "medefaidrin"),
    ("mtei", "meeteimayek"), ("mend", "mendekikakui"), ("merc", "meroiticcursive"),
    ("mero", "meroitichieroglyphs"), ("plrd", "miao"), ("modi", "modi"), ("mong", "mongolian"),
    ("mroo", "mro"), ("mult", "multani"), ("mymr", "myanmar"), ("nbat", "nabataean"),
    ("nagm", "nagmundari"), ("nand", "nandinagari"), ("talu", "newtailue"), ("newa", "newa"),
    ("nkoo", "nko"), ("nshu", "nushu"), ("hmnp", "nyiakengpuachuehmong"), ("ogam", "ogham"),
    ("olck", "olchiki"), ("onao", "olonal"), ("hung", "oldhungarian"), ("ital", "olditalic"),
    ("narb", "oldnortharabian"), ("perm", "oldpermic"), ("xpeo", "oldpersian"),
    ("sogo", "oldsogdian"), ("sarb", "oldsoutharabian"), ("orkh", "oldturkic"),
    ("ougr", "olduyghur"), ("orya", "oriya"), ("osge", "osage"), ("osma", "osmanya"),
    ("hmng", "pahawhhmong"), ("palm", "palmyrene"), ("pauc", "paucinhau"), ("phag", "phagspa"),
    ("phnx", "phoenician"), ("phlp", "psalterpahlavi"), ("rjng", "rejang"), ("runr", "runic"),
    ("samr", "samaritan"), ("saur", "saurashtra"), ("shrd", "sharada"), ("shaw", "shavian"),
    ("sidd", "siddham"), ("sgnw", "signwriting"), ("sinh", "sinhala"), ("sogd", "sogdian"),
    ("sora", "sorasompeng"), ("soyo", "soyombo"), ("sund", "sundanese"), ("sunu", "sunuwar"),
    ("sylo", "sylotinagri"), ("syrc", "syriac"), ("tglg", "tagalog"), ("tagb", "tagbanwa"),
    ("tale", "taile"), ("lana", "taitham"), ("tavt", "taiviet"), ("takr", "takri"),
    ("taml", "tamil"), ("tnsa", "tangsa"), ("tang", "tangut"), ("telu", "telugu"),
    ("thaa", "thaana"), ("thai", "thai"), ("tibt", "tibetan"), ("tfng", "tifinagh"),
    ("tirh", "tirhuta"), ("todr", "todhri"), ("toto", "toto"), ("tutg", "tulutigalari"),
    ("ugar", "ugaritic"), ("vaii", "vai"), ("vith", "vithkuqi"), ("wcho", "wancho"),
    ("wara", "warangciti"), ("yezi", "yezidi"), ("yiii", "yi"), ("zanb", "zanabazarsquare")]

/-- The runs of code points with the numbers of their scripts. -/
def scriptRuns : Runs := unpackRuns
  ["AcMYAZcVAFYAZcVAbUYAAcVAOYAAcVAEYAWcVAAYAbEcVAAYArGcVAbMYAEcVAEYABMATYAeHcFADbSAAYACbSCDbSAAY",
   "AAbSEAbSAAYAAbSAAYACbSBAbSBTbSBcKbSANZAPbSAfCbDABcFAgMbDBbLECbXECCEBcCcCIbAcCEFcCLEDAAYAFDAAY",
   "ANDAAYACDAAYAbFDAAYAJDAKcFAZDAAcFAeDDAAYAbHDANfNBcHfNCCfNAbVDAbXfYOcGeACCeAAbTfACOfABbBdGCAdG",
   "BKfNFbEDBBDFcWDAAYAbCDAdCbFADcFAObFABYAZbFADKBHKCBKCVKBGKBAKDDKCIKCBKCDKIAKEBKBEKCYKCCbVBFbVE",
   "BbVCVbVBGbVBBbVBBbVBBbVCAbVBEbVEBbVCCbVDAbVHDbVBAbVHQbVKCbTBIbTBCbTBVbTBGbTBBbTBEbTCJbTBCbTBC",
   "bTCAbTPDbTCLbTHGbTBCePBHePCBePCVePBGePBBePBEePCIePCBePCCePHCePEBePBEePCRePKBfUBFfUDCfUBDfUDBf",
   "UBAfUBBfUDBfUDCfUDLfUEEfUDCfUBDfUCAfUGAfUOUfUFMfXBCfXBWfXBPfXCIfXBCfXBDfXHBfXBCfXCAfXCDfXCJfX",
   "HIfXAMcKBCcKBWcKBJcKBEcKCIcKBCcKBDcKHBcKGBcKBDcKCJcKBCcKMMdFBCdFBbYdFBCdFBFdFEPdFCZdFBCfGBRfG",
   "DXfGBIfGBAfGCGfGDAfGEFfGBAfGBHfGGJfGCCfGMcFfZEAYAbBfZbLBcUBAcUBEcUBXcUBAcUBWcUCEcUBAcUBGcUBJc",
   "UCDcUbGcTgABbJgAEbMgABbJgABOgABGgAADYABgAbLgDdUAbLbOBAbOFAbOCbQbOAAYADbOAjVbYAcUbMBDbMCGbMBAb",
   "MBDbMCbObMBDbMCbGbMBDbMCGbMBAbMBDbMCObMBcEbMBDbMCcObMCbFbMDZbMGdHWCFWCyPRAbCeDDcWeZACYAKeZHVf",
   "OJAfOAUcAABYJTQMMfPBCfPBBfPMdPcQCJcQGJcQGBdRABYAAdRAAYATdRGdKdRHbQdRFcRRKbEcXBLcXELcXEAcXDLcX",
   "AbDfQCEfQLbRdYEZdYGKdYDBdYAbFcQAbBPCBPAcKfRBbCfRCKfRGJfRGNfRCbEcFbXcYGBbXGAcLfKAbZJIDJAcDcWDO",
   "cWDCcWAbVeEAKbDFbQbOCCbOAHfKICcFAAYAMcFAAYAGcFADYAAcFAFYAAcFACYABcFAAYFbLcVAEbSAAbDAbWcVAEbSA",
   "DcVAEbSAMcVAAbDAcRcVAAbSAcLcFAjVcVAVbSCFbSCbLbSCFbSCHbSBAbSBAbSBAbSBbEbSCcAbSBObSBNbSCFbSBSbS",
   "CCbSBIbSBLYABcFAdIYBKYAAcVCKYAAcVAOYBMcVDbGYPbGcFPbLYAAbSACYABcVAFYAAcVAbAYAAcVAQYAbOcVACYEzP",
   "YWKYVbjRYAjVOAyDYCbFYBeAYAdRbPAbFcVAeLZFGZAbLbOBAbOFAbOCcDgBHBgBOAgBAWbMJGbMBGbMBGbMBGbMBGbMB",
   "GbMBGbMBGbMBbFbDAdPYbIZbXBdKbXMiFbXbAUYAAbXAAYAAbXAYYAIbXADcFABbYAHYADbXADYBdHcDCBcFABYACcDAA",
   "YAdLcLABYACcLFbQMBdPbYBPYAbFMAbLYJAYAPcLAbEbYBcLYAbEbYAdCYAbUcLAAYAdJcLAgLYAjtNbXAcLYAbfbJbXA",
   "bsUgMDcCgMJbVdAAlNgHUdRbDAdJHIbHYAdXcVACYAcOcVCBcVBAcVBHcVVNcVAbSfMDJYGcDeVIcRfBILfBGbFbFAbTc",
   "NAAYAAcNAbJeYLAeYAbCbYDcZcIBAYAJcIEBcIAbEdUBcCVJNVCJVCDVAbFdUAcOfSYEfSAWdLKFbMCFbMCFbMJGbMBGb",
   "MBbQcVAAYAIcVAAbSADcVABYEdBWAbTdLCJdLGqnRbYMWbYEbWbYmnCoBbXCeBbXbMGcVMEEFZcCBEcCBAcCBBcCBBcCB",
   "JcCAeKDQnYDABYAdBDCcBDHADbGPDAPcFAJYGNcFABbDAbIYBSYBDYEEDBfEDCAYBbFYAZcVAFYAZcVAKYAJcLAAYAbSc",
   "LABYAbEbYDFbYCFbYCFbYCCbYDGYBGYKEYCLcZBZcZBScZBBcZBOcZCNcZbIeScZFCYEbSYDIYAdAbSBMYDAbSbVbSYAA",
   "cFfAbCdBDbWSPAcFAbAYEbJeHJCeHAbAbQFbQeJFbDgGBAgGAbJeKENeKbQdBbEAbVfDAbDeRCJeRGbJeQEbJeQEbNbKI",
   "bZTLATAKgIBOgIBGgIBBgIBKgIBOgIBGgIBBgIDbZgDMlYcYJVcYKHcYYFcVBbPcVBIcVcRFbBCAbBBbRbBBBbBDAbBCA",
   "bBAVcEBIcEAbFeTAbEdVIIdVbWScBBBcBFEcBAbBeWDAeWAZdCFAdCcMbFdOAXdNETdNCbTdNADcOBBcOFHcOBCcOBbCc",
   "OCCcOEJcOHIcOHbFeMAbFeIbGbMdHELdHJcBFDGFAVcHCHcHAScGFHcGAReXHDeXMGeXdCcUeNcDbYeGNbYeGHFeGAbNb",
   "ZIJbZGbLbNDbCbNIBbNiAbEDBbPgLBCgLCBgLQCDcDDDAbNeLIbPfHWZeObMbBXUWbLJcZNEbJNJANAcOcJKAcJCYfIHJ",
   "fIGcAUBRUIbMdDJdRfCBTfGLRcRBbUcRcKGdTBAdTBDdTBOdTBKdTGcGcSFJcSGDbRBHbRCBbRCVbRBGbRBBbRBEbRBAc",
   "FAIbRCBbRCCbRCAbRGAbRFGbRCGbRDEbRLJgFBAgFCAgFBbLgFBJgFBAgFCAgFBDgFBJgFBBgFIBgFbDdNdZBEdZbEcTg",
   "CIJgCgKcBfECbLfEbIcQdQLJdQGMdRTcFfTGJfTGTdUbCbABCOBEWBhDcHbHdWdEgKMAgKAGbGCAbGCHbGBBbGBbDbGBB",
   "bGCLbGJJbGcSHdXCbTdXCKdXbBcTgNIdEfJNPRAcEeUHJbFhAbHfLOJfLGILBbSLBNLKbCLDbFdICVdIBNdIcVGdJBBdJ",
   "BbRdJDAdJBBdJBIdJIJdJGFbUBBbUBbKbUBBbUBFbUHJbUlYYdEHQcMBbOcMDbCcMdHAdAPbXfUNAfUAbjLbAdYeGbABE",
   "bALhNbAdxKdUbCNbqRbJKfxQbJFwKCkdDcFbWcoSvWHHbEdSBJdSEBdSAdAfVBJfVGbDICFIKcReSKJeSBGeSBUeSFSeS",
   "qQcFcThQdMdKdXcWdPEcEdPHQdPcMAfWAAeBABbXAAcPLBbXOjbZfWIbdNfWAsBcPbPAcPAIfWnfRDcLBGcLBBcLBAcLA",
   "lAcDACcLPAcDbDCcDCAcLODcLIpFeBdkUeCbIFMbIDIbIHJbICDbIADYfvGjPYGqTYcYbTcFCWcFJeLYcIjLYKbMYCcJY",
   "ACcFAQYAHcFABYAGcFAbDYADcFAcIYVcRbSeSTYMTYMdIYJYYfFdGYBcSYBBYCAYCBYCDYBLYBAYBGYBcMYBDYCHYBGYB",
   "bBYBDYBEYBAYDGYBnBYClFYCbXYAzBfFPEfFBOfFbqMbEcVGFcViFGbPBQbPCGbPBBbPBEbPFcJbDbHAbDeIbSeCDNeCC",
   "JeCEBeCmIbEgERcFgJFAgJrWbPdWiGbQeFEAeFsMGbMBDbMBBbMBObMBhOdMCPdMbPcXAEJAEBAbeFcPYcYcIYhMDDBbA",
   "DBBDBADCADBJDBDDBADBADGADEADBADBADBCDBBDBADCADBADBADBADBADBBDBADCDDBGDBDDBDDBADBJDBQDFCDBEDBQ",
   "DcABDkKbRYEdVYMOYCOYBOYBbKYKgRYcEZYAAcDABYNbRYEIYHBYOFYfYblVYEQYDMYDeOYEdQYGLYEAYPLYEcDYIJYGb",
   "NYIbDYCLYEBYcKnBYMNYCMYDJYFcDYHOYCKYGIYHfQYBdXYbnQclfBbXbGgdTbXGiNbXCinPbXOlbKbXPxXbXdqWuVbXc",
   "fYhhYbXFgfFbXbomxLAYbEdRYeYjFcF"]

/-- The number of a script, by one of its normalised names; two scripts have a private-use code as
a third. -/
def scriptNamed (name : String) : Option Nat :=
  let name := if name == "qaac" then "coptic" else if name == "qaai" then "inherited" else name
  scriptNames.findIdx? fun (short, long) => name == short || name == long

/-- The number of the script of a character. -/
def script? (c : Char) : Option Nat :=
  scriptRuns.find? c.toNat

end Footprint.Unicode
