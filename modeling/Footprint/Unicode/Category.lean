import Footprint.Unicode.Ranges

/-!
# General categories

Every code point has one of thirty general categories. The table lists the runs of assigned code
points; what it leaves out is unassigned.
-/

namespace Footprint.Unicode

/-- The general categories of the Unicode standard. -/
inductive Category where
  /-- Uppercase Letter. -/
  | uppercaseLetter
  /-- Lowercase Letter. -/
  | lowercaseLetter
  /-- Titlecase Letter. -/
  | titlecaseLetter
  /-- Modifier Letter. -/
  | modifierLetter
  /-- Other Letter. -/
  | otherLetter
  /-- Nonspacing Mark. -/
  | nonspacingMark
  /-- Spacing Mark. -/
  | spacingMark
  /-- Enclosing Mark. -/
  | enclosingMark
  /-- Decimal Number. -/
  | decimalNumber
  /-- Letter Number. -/
  | letterNumber
  /-- Other Number. -/
  | otherNumber
  /-- Connector Punctuation. -/
  | connectorPunctuation
  /-- Dash Punctuation. -/
  | dashPunctuation
  /-- Open Punctuation. -/
  | openPunctuation
  /-- Close Punctuation. -/
  | closePunctuation
  /-- Initial Punctuation. -/
  | initialPunctuation
  /-- Final Punctuation. -/
  | finalPunctuation
  /-- Other Punctuation. -/
  | otherPunctuation
  /-- Math Symbol. -/
  | mathSymbol
  /-- Currency Symbol. -/
  | currencySymbol
  /-- Modifier Symbol. -/
  | modifierSymbol
  /-- Other Symbol. -/
  | otherSymbol
  /-- Space Separator. -/
  | spaceSeparator
  /-- Line Separator. -/
  | lineSeparator
  /-- Paragraph Separator. -/
  | paragraphSeparator
  /-- Control. -/
  | control
  /-- Format. -/
  | format
  /-- Surrogate. -/
  | surrogate
  /-- Private Use. -/
  | privateUse
  /-- Unassigned. -/
  | unassigned
deriving Repr, DecidableEq

/-- The categories in the order in which the table numbers them. -/
def categoryNumbers : Array Category :=
  #[.uppercaseLetter, .lowercaseLetter, .titlecaseLetter, .modifierLetter, .otherLetter,
    .nonspacingMark, .spacingMark, .enclosingMark, .decimalNumber, .letterNumber, .otherNumber,
    .connectorPunctuation, .dashPunctuation, .openPunctuation, .closePunctuation,
    .initialPunctuation, .finalPunctuation, .otherPunctuation, .mathSymbol, .currencySymbol,
    .modifierSymbol, .otherSymbol, .spaceSeparator, .lineSeparator, .paragraphSeparator, .control,
    .format, .surrogate, .privateUse]

/-- Runs of one numbered value from alternating gaps, lengths and numbers. -/
def ofRuns : Nat → List Nat → List (Range × Nat)
  | next, gap :: length :: value :: rest =>
    (⟨next + gap, next + gap + length⟩, value) :: ofRuns (next + gap + length + 1) rest
  | _, _ => []

/-- A sorted table of disjoint runs of code points that share a numbered value. -/
structure Runs where
  /-- The runs in increasing order. -/
  runs : Array (Range × Nat)
  /-- The first code point of each run. -/
  starts : Array Nat := runs.map (·.1.first)

/-- The table written as packed gaps, lengths and numbers. -/
def unpackRuns (lines : List String) : Runs :=
  { runs := (ofRuns 0 (numbers lines)).toArray }

/-- The number of the run that holds a code point. -/
def Runs.find? (t : Runs) (n : Nat) : Option Nat :=
  match t.runs[bisect t.starts n 0 t.runs.size]? with
  | some (r, value) => if r.holds n then some value else none
  | none => none

/-- The runs of assigned code points with the numbers of their categories. -/
def categoryRuns : Runs := unpackRuns
  ["AbFZAAWACRAATACRAANAAOAARAASAARAAMABRAJIABRACSABRAZAAANAARAAOAAUAALAAUAZBAANAASAAOAASAbGZAAWA",
   "ARADTAAVAARAAUAAVAAEAAPAASAAbAAAVAAUAAVAASABKAAUAABABRAAUAAKAAEAAQACKAARAWAAASAGAAXBAASAHBAAA",
   "AABAAAAABAAAAABAAAAABAAAAABAAAAABAAAAABAAAAABAAAAABAAAAABAAAAABAAAAABAAAAABAAAAABAAAAABAAAAAB",
   "AAAAABAAAAABAAAAABAAAAABAAAAABAAAAABAAAAABAAAAABAAAAABAAAAABAAAAABAAAABBAAAAABAAAAABAAAAABAAA",
   "AABAAAAABAAAAABAAAAABAAAABBAAAAABAAAAABAAAAABAAAAABAAAAABAAAAABAAAAABAAAAABAAAAABAAAAABAAAAAB",
   "AAAAABAAAAABAAAAABAAAAABAAAAABAAAAABAAAAABAAAAABAAAAABAAAAABAAAAABAAAAABABAAABAAAAABAAAACBABA",
   "AABAAAAABABAAABACAABBADAAABABAAABACAACBABAAABABAAABAAAAABAAAAABABAAABAAAABBAAAAABABAAABACAAAB",
   "AAAAABABAABBAAEAAAACBADEAAAAACAABAAAAACAABAAAAACAABAAAAABAAAAABAAAAABAAAAABAAAAABAAAAABAAAAAB",
   "AAAABBAAAAABAAAAABAAAAABAAAAABAAAAABAAAAABAAAAABAAAAABAAAABBAAAAACAABAAAAABACAAABAAAAABAAAAAB",
   "AAAAABAAAAABAAAAABAAAAABAAAAABAAAAABAAAAABAAAAABAAAAABAAAAABAAAAABAAAAABAAAAABAAAAABAAAAABAAA",
   "AABAAAAABAAAAABAAAAABAAAAABAAAAABAAAAABAAAAABAAAAABAAAAABAAAAABAAAAGBABAAABABAABBAAAAABADAAAB",
   "AAAAABAAAAABAAAAABAAAAcQBABEAZBARDADUALDANUAEDAGUAADAAUAADAQUAeHFAAAAABAAAAABAADAAUAAAAABCADA",
   "CBAARAAAEBUAAAAARACABAABBAAABAQABIAAbIBAAAABBACAACBAAAAABAAAAABAAAAABAAAAABAAAAABAAAAABAAAAAB",
   "AAAAABAAAAABAAAAABAAAAABAAAAEBAAAAABAASAAAAABABAABBAbYAAbVBAAAAABAAAAABAAAAABAAAAABAAAAABAAAA",
   "ABAAAAABAAAAABAAAAABAAAAABAAAAABAAAAABAAAAABAAAAABAAAAABAAAAABAAAAABAAVAEFABHAAAAABAAAAABAAAA",
   "ABAAAAABAAAAABAAAAABAAAAABAAAAABAAAAABAAAAABAAAAABAAAAABAAAAABAAAAABAAAAABAAAAABAAAAABAAAAABA",
   "AAAABAAAAABAAAAABAAAAABAAAAABAAAAABAAAAABAAAAABAAAAABABAAABAAAAABAAAAABAAAAABAAAAABAAAAABAAAA",
   "BBAAAAABAAAAABAAAAABAAAAABAAAAABAAAAABAAAAABAAAAABAAAAABAAAAABAAAAABAAAAABAAAAABAAAAABAAAAABA",
   "AAAABAAAAABAAAAABAAAAABAAAAABAAAAABAAAAABAAAAABAAAAABAAAAABAAAAABAAAAABAAAAABAAAAABAAAAABAAAA",
   "ABAAAAABAAAAABAAAAABAAAAABAAAAABAAAAABAAAAABAAAAABAAAAABAAAAABAAAAABAAAAABAAAAABAAAAABAAAAABA",
   "AAAABAAAAABBbLACADAFRAbOBAARAAMCBVAATBbSFAAMAAFAARABFAARABFAARAAFIbAEEDEABRLFbAACSABRAATABRAB",
   "VAKFAARAAbAACRAbFEAADAJEAUFAJIADRABEAAFAdUEAARAAEAGFAAbAAAVAFFABDABFAAVADFABEAJIACEABVAAEANRB",
   "AbAAAEAAFAbDEAbAFCdKEAKFAAEOJIAbGEAIFABDAAVACRAADCAFABTAVEADFAADAIFAADACFAADAEFCORBYEACFCARBK",
   "EFXEAAUAFEBBbAFIFAbOEAADAXFAAbAAbFFAAGAcBEAAFAAGAAFAAEACGAHFADGAAFABGAAEAGFAJEABFABRAJIAARAAD",
   "AOEAAFABGBHECBECVEBGEBAEDDECAFAAEACGADFCBGCBGAAFAAEIAGEBEBCEABFCJIABEABTAFKAAVAATAAEAARAAFCBF",
   "AAGBFEEBECVEBGEBBEBBEBBECAFBCGABFEBFCCFDAFHDEBAEHJIABFACEAAFAARKBFAAGBIEBCEBVEBGEBBEBEECAFAAE",
   "ACGAEFBBFAAGBBGAAFCAEPBEABFCJIAARAATHAEAFFBAFABGBHECBECVEBGEBBEBEECAFAAEAAGAAFAAGADFCBGCBGAAF",
   "HBFAAGEBEBCEABFCJIAAVAAEAFKKAFAAEBFEDCEBDEDBEBAEBBEDBEDCEDLEEBGAAFABGDCGBCGAAFCAEGAGOJIACKAFV",
   "AATAAVFAFACGAAFAHEBCEBWEBPECAFAAEACFADGBCFBDFHBFBCECAECBEABFCJIHARAGKAAVAAEAAFABGAARAHEBCEBWE",
   "BJEBEECAFAAEAAGAAFAEGBAFABGBBGABFHBGGBEBBEABFCJIBBEAAGMBFABGAIEBCEBbOEABFAAEACGADFBCGBCGAAFAA",
   "EAAVECEAAGAGKACEABFCJIAIKAAVAFEBAFABGBREDXEBIEBAECGEDAFECGACFBAFBHGGJICBGAARMbVEAAFABEAGFEATA",
   "FEAADAHFAARAJIABRbLBEBAEBEEBXEBAEBJEAAFABEAIFAAECEEBADBGFBJICDEbGAEACVAORAAVAARACVABFAFVAJIAJ",
   "KAAVAAFAAVAAFAAVAAFAANAAOAANAAOABGAHEBbJEENFAAGAEFAARABFAEEAKFBbJFBHVAAFAFVBBVAERADVABRbLbQEA",
   "BGADFAAGAFFAAGABFABGABFAAEAJIAFRAFEABGABFADEACFAAEACGABEAGGACEADFAMEAAFABGABFAFGAAFAAEAAGAJIA",
   "CGAAFABVAbLABAAFAACbQBAARAADACBAmQEBDECGEBAEBDECbOEBDECbGEBDECGEBAEBDECOEBcEEBDECcOECCFAIRATK",
   "DPEAJVGdHACFBCAMAxVEAAVAARAQEAAWAZEAANAAODcWEACRACJAHEHREACFAAGJSEABFAAGABRJREABFMMEBCEBBFMbZ",
   "EABFAAGAGFAHGAAFABGAKFACRAADACRAATAAEAAFCJIGJKGFRAAMADRACFAAbAAAFAJIGbIEAADAcAEHEEABFAbHEAAFA",
   "AEFcREKbEEBCFADGABFACGEBGAAFAFGACFEAVDBRAJIAbDECEELbREEZEGJIAAKDbHVAWEABFABGAAFCBRAcAEAAGAAFA",
   "AGAGFBAFAAGAAFABGAHFAFGAJFCAFAJIGJIGGRAADAFRCNFAAHAPFbXDFAAGAbUEAAFAAGAEFAAGAAFAEGAAFABGAHEBB",
   "RAJIAGRAJVAIFAIVACRABFAAGAbDEAAGADFABGABFAAGACFABEAJIAbREAAFAAGABFACGAAFAAGACFABGIDRAbJEAHGAH",
   "FABGABFDERAJIDCEAJIAbDEAFDABRAIBAAAAABFbQACCAAHRICFAARAMFAAGAGFADEAAFAFEAAFABEAAGABFAAEFbRBAc",
   "KDAMBAADAbHBAbKDAcLFAAAAABAAAAABAAAAABAAAAABAAAAABAAAAABAAAAABAAAAABAAAAABAAAAABAAAAABAAAAABA",
   "AAAABAAAAABAAAAABAAAAABAAAAABAAAAABAAAAABAAAAABAAAAABAAAAABAAAAABAAAAABAAAAABAAAAABAAAAABAAAA",
   "ABAAAAABAAAAABAAAAABAAAAABAAAAABAAAAABAAAAABAAAAABAAAAABAAAAABAAAAABAAAAABAAAAABAAAAABAAAAABA",
   "AAAABAAAAABAAAAABAAAAABAAAAABAAAAABAAAAABAAAAABAAAAABAAAAABAAAAABAAAAABAAAAABAAAAABAAAAABAAAA",
   "ABAAAAABAAAAABAAAAABAAAAABAAAAABAAAAABAAAAABAAAAABAAAAABAAAAABAAAAABAAAAABAAAAABAAAAABAAAAABA",
   "AAAIBAAAAABAAAAABAAAAABAAAAABAAAAABAAAAABAAAAABAAAAABAAAAABAAAAABAAAAABAAAAABAAAAABAAAAABAAAA",
   "ABAAAAABAAAAABAAAAABAAAAABAAAAABAAAAABAAAAABAAAAABAAAAABAAAAABAAAAABAAAAABAAAAABAAAAABAAAAABA",
   "AAAABAAAAABAAAAABAAAAABAAAAABAAAAABAAAAABAAAAABAAAAABAAAAABAAAAABAAAAABAAAAABAAAAABAAAAABAAAA",
   "ABAAAAABAAAAABAAAAIBAHAAFBCFACHBAHAAHBAHAAFBCFACHBBAABAABAABAAAHBAHAANBCHBAHCAHBAHCAHBAHCAEBB",
   "BBADAAACAAUAABACUACBBBBADAAACACUADBCBBADABCUAHBAEAACUCCBBBBADAAACABUBKWAEbAAFMABRAAPAAQAANABP",
   "AAQAANAAPAHRAAXAAYAEbAAAWAIRAAPAAQADRABLACRAASAANAAOAKRAASAARAALAJRAAWAEbABJbAAAKAADCFKACSAAN",
   "AAOAADAJKACSAANAAOBMDDbGTPMFADHAAFACHALFPBVAAAADVAAAABVAABACAABBACAAABAAVAAAABVAASAEAAFVAAAAA",
   "VAAAAAVAAAAAVADAAAVAABADAAABADEAABABVABBABAAESAAAADBAAVAASABVAABAAVAPKAbIJAAAAABADJAAKABVEESA",
   "EVABSADVAASABVAASABVAASAGVAASAbEVABSABVAASAAVAASAbEVAkHSAHVAANAAOAANAAOATVABSAGVAANAAOAdCVAAS",
   "AbDVAYSAbNVAFSAcTVWKVVcHKAcZVAVKAhAVAASAIVAASAcBVAHSAeGVAASAjNVAANAAOAANAAOAANAAOAANAAOAANAAO",
   "AANAAOAANAAOAbDKAbRVAESAANAAOAbESAANAAOAANAAOAANAAOAANAAOAANAAOAPSAjVVAfASAANAAOAANAAOAANAAOA",
   "ANAAOAANAAOAANAAOAANAAOAANAAOAANAAOAANAAOAANAAOAcKSAANAAOAANAAOAbFSAANAAOAjXSAbVVAUSABVAFSAbM",
   "VCbFVBeAVAbVAAbVBAAAAABACAABBAAAAABAAAAABAAAAABADAAABAAAABBAAAAFBABDACAAABAAAAABAAAAABAAAAABA",
   "AAAABAAAAABAAAAABAAAAABAAAAABAAAAABAAAAABAAAAABAAAAABAAAAABAAAAABAAAAABAAAAABAAAAABAAAAABAAAA",
   "ABAAAAABAAAAABAAAAABAAAAABAAAAABAAAAABAAAAABAAAAABAAAAABAAAAABAAAAABAAAAABAAAAABAAAAABAAAAABA",
   "AAAABAAAAABAAAAABAAAAABAAAAABAAAAABAAAAABAAAAABAAAAABAAAAABAAAAABAAAAABAAAAABAAAAABAAAABBAFVA",
   "AAAABAAAAABACFAAAAABFDRAAKABRAbLBBABFABCcDEHADAAROAFAWEJGEBGEBGEBGEBGEBGEBGEBGEBbFFABRAAPAAQA",
   "APAAQACRAAPAAQAARAAPAAQAIRAAMABRAAMAARAAPAAQABRAAPAAQAANAAOAANAAOAANAAOAANAAOAERAADAJRABMADRA",
   "AMAARAANAMRABVACRAANAAOAANAAOAANAAOAANAAOAAMbIZVBdKVMiFVbAPVAAWACRAAVAADAAEAAJAANAAOAANAAOAAN",
   "AAOAANAAOAANAAOABVAANAAOAANAAOAANAAOAANAAOAAMAANABOAAVAIJADFABGAAMAEDABVACJAADAAEAARABVBdHECB",
   "FABUABDAAEAAMAdLEAARACDAAEFbQEBdPEBBVADKAJVAbFEAbLVJAVAPEAbEVBJKAbDVAHKAAVAOKAbFVAJKAbMVAOKAm",
   "HVAjtNEAcLVAbfcEEAADAbrYEDcCVJbNEAFDABRAkHEAADACRAPEAJIABEUAAAABAAAAABAAAAABAAAAABAAAAABAAAAA",
   "BAAAAABAAAAABAAAAABAAAAABAAAAABAAAAABAAAAABAAAAABAAAAABAAAAABAAAAABAAAAABAAAAABAAAAABAAAAABAA",
   "AAABAAAAABAAEAAFACHAARAJFAARAADAAAAABAAAAABAAAAABAAAAABAAAAABAAAAABAAAAABAAAAABAAAAABAAAAABAA",
   "AAABAAAAABAAAAABAAAAABABDABFAcREAJJABFAFRIWUAIDABUAAAAABAAAAABAAAAABAAAAABAAAAABAAAAABAAAACBA",
   "AAAABAAAAABAAAAABAAAAABAAAAABAAAAABAAAAABAAAAABAAAAABAAAAABAAAAABAAAAABAAAAABAAAAABAAAAABAAAA",
   "ABAAAAABAAAAABAAAAABAAAAABAAAAABAAAAABAAAAABAAAAABAAAAABAAAAABAAAAABAAAAABAAAAABAAAAABAAAAABA",
   "ADAHBAAAAABAAAAABABAAABAAAAABAAAAABAAAAABAAAAABAADABUAAAAABAAAAABAAEAAAAABAAAACBAAAAABAAAAABA",
   "AAAABAAAAABAAAAABAAAAABAAAAABAAAAABAAAAABAAAAABAEAAABAEAAABAAAAABAAAAABAAAAABAAAAABAAAAABAAAA",
   "ABAAAAABADAAABAAAAABABAAABCAAAABBABBABAAAAABAAAAABAAAAABAAAVCDAAAAABAAEABDAABAGEAAFACEAAFADEA",
   "AFAWEABGABFAAGADVAAFDFKABVAATAAVGbZEADRIBGAbXEAPGABFIBRAJIGRFAFEACRAAEAARABEAAFAJIAbBEAHFABRA",
   "WEAKFABGLARAbCEDCFAAGAbUEAAFABGADFABGABFACGAMRBADAJIEBRAEEAAFAADAIEAJIAEEBbOEAFFABGABFABGABFJ",
   "CEAAFAHEAAFAAGCJICDRAPEAADAFEACVAAEAAGAAFAAGAbXEAAFAAEACFABEABFAEEABFAAEAAFAAEYBEAADABRAKEAAG",
   "ABFABGABRAAEABDAAGAAFKFECFECFEJGEBGEBbQBAAUADDAIBAADABUEdBBAbIEABGAAFABGAAFABGAARAAGAAFCJIGqn",
   "REMWEEbWEEdaTbBAjmDbCAoBECeBEbMGBMEBFAEAAFAJEAASAMEBEEBAEBBEBBEBeDEAQUQnYEAAOAANAPVAcLECcBEHA",
   "VbGLEAATACVAPFAGRAANAAOAARGPFAARABMABLAANAAOAANAAOAANAAOAANAAOAANAAOAANAAOAANAAOAANAAOABRAANA",
   "AOADRACLACRBDRAAMAANAAOAANAAOAANAAOACRAASAAMACSBARAATABREEEBfEECAbABCRAATACRAANAAOAARAASAARAA",
   "MABRAJIABRACSABRAZAAANAARAAOAAUAALAAUAZBAANAASAAOAASAANAAOAARAANAAOABRAJEAADAbSEABDAbEEDFECFE",
   "CFECCEDBTAASAAUAAVABTBAVADSABVKCbAABVCLEBZEBSEBBEBOECNEbIeSEFCREbSKDIVAcAJADKAQVABKACVBMVDAVb",
   "VbSVAAFfAbCEDbWEPAFAbAKEbFEADKJTEAAJAHEAAJFbLEAEFFbDEBARAbJEEHEAARAEJbQbNAAbNBAcZECJIGbJAEbJB",
   "EbNEIbZELARAKABOABGABBABKBBOBBGBBBBDbZEMlYEJVEKHEYFDBbPDBIDcRFECAEBbREBBEDAECWEBARAHKAWEABVAG",
   "KAbEEIIKbWSEBBEFEKAVEAFKDARAZEFARcMcDEEBKABEAPKCbTKAAEACFBBFFDFADEBCEBbCECCFEAFAIKHIRHbCEABKA",
   "ARAbCEACKbGHEAAVAbBEABFEEKAGRJcBEDGRAVECHKASEFHKAREHDRMGKdCcUEcDbYANbYBHFKAbJEADFIJIGJIADEAAD",
   "AAEAVADEFAAMAADAVBIBSiAbEKBbPEBBFAAMCBEQCEcDDFAbCEAJKAAEIVEAKFADKAERWREADFADRbMUEAGKUWEJAGAAF",
   "AAGAcAEAOFAGRETKAJIAAFABEABFAAEJCFAAGAbSEACGADFABGABFABRAAbAADRAAFKAbACYEHJIGCFAbJEAEFAAGAHFB",
   "JIADRAAEABGAAEIbIEAAFABRAAEJBFAAGAbVEACGAIFABGADEADRADFAARAAGAAFAJIAAEAARAAEACRBTKLREBYEACGAC",
   "FABGAAFAAGABFAFRAAFABEAAFcKGEBAEBDEBOEBJEAARGbUEAAFACGAHFFJIGBFABGBHECBECVEBGEBBEBEEBBFAAEABG",
   "AAFADGCBGCCGCAEGAGFEEABGCGFDEFLJEBAECAEBbLEBAEACGAFFBAGCAGBDGBBGAAFAAGAAFAAEAAFAAEABRBBRIBFbD",
   "cAEACGAHFABGACFAAGAAFADEAERAJIABRBARAAFACEbEbVEACGAFFAAGAAFADGABFAAGABFABEAARAAEIJIgKbUEACGAD",
   "FCDGABFAAGABFAWRADEABFbIbVEACGAHFABGAAFAAGABFACRAAELJIGMRTbQEAAFAAGAAFABGAFFAAGAAFAAEAARGJIGT",
   "IbCbAECAFAAGAAFABGADFAAGAEFEJIABKACRAAVAGEhDbREACGAIFAAGABFAARdWbFAAbFBAJIAIKMHECAECHEBBEBXEA",
   "FGBBGCBFAAGAAFAAEAAGAAEAAGAAFACRJJIcSHECbMEACGADFCBFADGAAFAAEAARAAEAAGbBAEAJFAbNEAFFAAGAAEADF",
   "AHRAAFIAEAFFABGACFAbTEAMFAAGABFACRAAEAERNcUEHJRhAbGEAAROJIGIEBbKEAAGAGFBFFAAGAAFAAEAERKJIASKD",
   "BRAbDECVFBAGAGFAAGABFAAGABFcVGEBBEBbLEAFFDAFBBFBGFAAEAAFIJIGFEBBEBbFEAEGBBFBBGAAFAAGAAFAAEHJI",
   "lYSEABFABGABRHBFAAEAAGAMEBbHEABGAEFDBGAAFAAGAAFAMRAJIAAFdHAEPUKAHVADTAQVNARAbjLEdYeGJBERLhNEd",
   "xKdSEABRNbpFEAPbAAAFAFEAOFKfxQEFwKEkdDbDEALFACGACFAJIcoSvWEHbEEBJIEBRAdAEBJIGbDECEFAARKbVEAGF",
   "AERADVADDAARAAVKJIBGKBUEFSEqQCDAbNEABDACRAJIhQbFAAbFBAWKADRdXcWEEAFAAEAcCGHDFAMDcMBDAARAADAAF",
   "LBGOjbZEIbvPEbPJEnfRDDBGDBBDBlEEPAEbDCECAEODEIpFEdkUeCEFMEDIEHJECAVABFAARADbAfvGjFVAJIGqTVcYb",
   "TFCWFJeLVcIjLVKbMVCcHVABGACFACVAFGAHbAAHFABVAGFAbDVADFAcIVVcNVACFAAVeSTKMTKMdIVJYKfFZAAZBAZAA",
   "GBBRBAZAAZBAAABBACAACBACDABHAADBBABBGBBKBAZAAZBABABDACHABGABZBABABDABEABAADGABZBAZAAZBAZAAZBA",
   "ZAAZBAZAAZBAZAAZBAZAAbBBCYAAASAYBAASAFBAYAAASAYBAASAFBAYAAASAYBAASAFBAYAAASAYBAASAFBAYAAASAYB",
   "AASAFBAAAAABCbXIAtRVAcCFADVAbXFAHVAAFANVAAFABVAERPEFBOFbqMJBAAEATBGFBiFGFBQFCGFBBFBEFFcJDbHAF",
   "eIbSEDGFAGDCJIEAEAAVmIbDEAAFRbREADFAJIFATrWbAEAADADFAJIiGbDEABFAAEAJIEARsMGEBDEBBEBOEBhOECIKA",
   "GFbPbHAAbHBAGFAADEJIEBRbeFcGKAAVACKAATADKcYbSKAAVAOKhMDEBbAEBBEBAECAEBJEBDEBAEBAEGAEEAEBAEBAE",
   "BCEBBEBAECAEBAEBAEBAEBAEBBEBAECDEBGEBDEBDEBAEBJEBQEFCEBEEBQEcABSkKbRVEdVVMOVCOVBOVBbKVKMKAgEV",
   "cEbCVNbRVEIVHBVOFVfYjQVAEUAbbZVEQVDMVDeOVEdQVGLVEAVPLVEcDVIJVGbNVIbDVCLVEBVcKnBVMNVCMVDJVFcDV",
   "HOVCKVGIVHfQVBdNVAJIbnQclfBEbGgdTEGiNECinPEOlbKEPxXEdqWuVEcfYhhYEFgfFEbomxLAbAbEdRbAeYjFFdsfO",
   "dsyNbCCdsyNbC"]

/-- The general category of a character. -/
def category (c : Char) : Category :=
  match categoryRuns.find? c.toNat with
  | some i => categoryNumbers.getD i .unassigned
  | none => .unassigned

/-- The categories that a name stands for, by its normalised form: one category, or one of the
seven groups of them. -/
def categoriesNamed : String → Option (List Category)
  | "lu" | "uppercaseletter" => some [.uppercaseLetter]
  | "ll" | "lowercaseletter" => some [.lowercaseLetter]
  | "lt" | "titlecaseletter" => some [.titlecaseLetter]
  | "lm" | "modifierletter" => some [.modifierLetter]
  | "lo" | "otherletter" => some [.otherLetter]
  | "mn" | "nonspacingmark" => some [.nonspacingMark]
  | "mc" | "spacingmark" => some [.spacingMark]
  | "me" | "enclosingmark" => some [.enclosingMark]
  | "nd" | "decimalnumber" | "digit" => some [.decimalNumber]
  | "nl" | "letternumber" => some [.letterNumber]
  | "no" | "othernumber" => some [.otherNumber]
  | "pc" | "connectorpunctuation" => some [.connectorPunctuation]
  | "pd" | "dashpunctuation" => some [.dashPunctuation]
  | "ps" | "openpunctuation" => some [.openPunctuation]
  | "pe" | "closepunctuation" => some [.closePunctuation]
  | "pi" | "initialpunctuation" => some [.initialPunctuation]
  | "pf" | "finalpunctuation" => some [.finalPunctuation]
  | "po" | "otherpunctuation" => some [.otherPunctuation]
  | "sm" | "mathsymbol" => some [.mathSymbol]
  | "sc" | "currencysymbol" => some [.currencySymbol]
  | "sk" | "modifiersymbol" => some [.modifierSymbol]
  | "so" | "othersymbol" => some [.otherSymbol]
  | "zs" | "spaceseparator" => some [.spaceSeparator]
  | "zl" | "lineseparator" => some [.lineSeparator]
  | "zp" | "paragraphseparator" => some [.paragraphSeparator]
  | "cc" | "control" | "cntrl" => some [.control]
  | "cf" | "format" => some [.format]
  | "cs" | "surrogate" => some [.surrogate]
  | "co" | "privateuse" => some [.privateUse]
  | "cn" | "unassigned" => some [.unassigned]
  | "l" | "letter" =>
    some [.uppercaseLetter, .lowercaseLetter, .titlecaseLetter, .modifierLetter, .otherLetter]
  | "lc" | "casedletter" => some [.uppercaseLetter, .lowercaseLetter, .titlecaseLetter]
  | "m" | "mark" | "combiningmark" => some [.nonspacingMark, .spacingMark, .enclosingMark]
  | "n" | "number" => some [.decimalNumber, .letterNumber, .otherNumber]
  | "p" | "punctuation" | "punct" =>
    some [.connectorPunctuation, .dashPunctuation, .openPunctuation, .closePunctuation,
      .initialPunctuation, .finalPunctuation, .otherPunctuation]
  | "s" | "symbol" => some [.mathSymbol, .currencySymbol, .modifierSymbol, .otherSymbol]
  | "z" | "separator" => some [.spaceSeparator, .lineSeparator, .paragraphSeparator]
  | "c" | "other" => some [.control, .format, .surrogate, .privateUse, .unassigned]
  | _ => none

end Footprint.Unicode
