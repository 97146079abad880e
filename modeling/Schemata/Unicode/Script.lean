import Schemata.Unicode.Table

/-!
# Scripts

The script that a character is written in, as of version 17 of the Unicode standard. Some characters
are shared: they are used with several scripts beside the one they are counted to.
-/
namespace Schemata.Unicode
namespace Script

/-- The names of the scripts in lower case without separators, long and short ones. A script is
known by its position. -/
def names : List (List String) :=
  [["common", "zyyy"], ["arabic", "arab"], ["ethiopic", "ethi"], ["greek", "grek"],
    ["latin", "latn"], ["inherited", "zinh", "qaai"], ["han", "hani"], ["tamil", "taml"],
    ["gurmukhi", "guru"], ["grantha", "gran"], ["bengali", "beng"], ["gujarati", "gujr"],
    ["hangul", "hang"], ["katakana", "kana"], ["oriya", "orya"], ["kannada", "knda"],
    ["sinhala", "sinh"], ["telugu", "telu"], ["lao", "laoo"], ["tulutigalari", "tutg"],
    ["cyrillic", "cyrl"], ["georgian", "geor"], ["hebrew", "hebr"], ["divesakuru", "diak"],
    ["kharoshthi", "khar"], ["vithkuqi", "vith"], ["linearb", "linb"], ["malayalam", "mlym"],
    ["masaramgondi", "gonm"], ["tibetan", "tibt"], ["cypriot", "cprt"], ["glagolitic", "glag"],
    ["gunjalagondi", "gong"], ["hiragana", "hira"], ["mongolian", "mong"], ["devanagari", "deva"],
    ["duployan", "dupl"], ["limbu", "limb"], ["multani", "mult"], ["pahawhhmong", "hmng"],
    ["taitham", "lana"], ["armenian", "armn"], ["bhaiksuki", "bhks"], ["cham", "cham"],
    ["cuneiform", "xsux"], ["khmer", "khmr"], ["myanmar", "mymr"], ["newtailue", "talu"],
    ["nyiakengpuachuehmong", "hmnp"], ["syriac", "syrc"], ["tangut", "tang"], ["adlam", "adlm"],
    ["ahom", "ahom"], ["bopomofo", "bopo"], ["brahmi", "brah"], ["canadianaboriginal", "cans"],
    ["cherokee", "cher"], ["coptic", "copt", "qaac"], ["garay", "gara"], ["hatran", "hatr"],
    ["javanese", "java"], ["kawi", "kawi"], ["khitansmallscript", "kits"], ["lepcha", "lepc"],
    ["lineara", "lina"], ["marchen", "marc"], ["meeteimayek", "mtei"], ["meroiticcursive", "merc"],
    ["miao", "plrd"], ["mro", "mroo"], ["nandinagari", "nand"], ["oldhungarian", "hung"],
    ["psalterpahlavi", "phlp"], ["signwriting", "sgnw"], ["tagbanwa", "tagb"], ["taiyo", "tayo"],
    ["tifinagh", "tfng"], ["yezidi", "yezi"], ["avestan", "avst"], ["balinese", "bali"],
    ["bamum", "bamu"], ["bassavah", "bass"], ["batak", "batk"], ["beriaerfe", "berf"],
    ["buginese", "bugi"], ["caucasianalbanian", "aghb"], ["chakma", "cakm"],
    ["egyptianhieroglyphs", "egyp"], ["hanifirohingya", "rohg"], ["imperialaramaic", "armi"],
    ["inscriptionalpahlavi", "phli"], ["inscriptionalparthian", "prti"], ["kaithi", "kthi"],
    ["kayahli", "kali"], ["khojki", "khoj"], ["khudawadi", "sind"], ["lisu", "lisu"],
    ["lydian", "lydi"], ["mandaic", "mand"], ["manichaean", "mani"], ["mendekikakui", "mend"],
    ["modi", "modi"], ["nabataean", "nbat"], ["newa", "newa"], ["nko", "nkoo"], ["nushu", "nshu"],
    ["olonal", "onao"], ["olditalic", "ital"], ["oldpersian", "xpeo"], ["osage", "osge"],
    ["osmanya", "osma"], ["phoenician", "phnx"], ["rejang", "rjng"], ["runic", "runr"],
    ["samaritan", "samr"], ["saurashtra", "saur"], ["sharada", "shrd"], ["siddham", "sidd"],
    ["sorasompeng", "sora"], ["sundanese", "sund"], ["sunuwar", "sunu"], ["tagalog", "tglg"],
    ["taile", "tale"], ["taiviet", "tavt"], ["takri", "takr"], ["tangsa", "tnsa"],
    ["thai", "thai"], ["tirhuta", "tirh"], ["tolongsiki", "tols"], ["ugaritic", "ugar"],
    ["wancho", "wcho"], ["warangciti", "wara"], ["yi", "yiii"], ["anatolianhieroglyphs", "hluw"],
    ["braille", "brai"], ["buhid", "buhd"], ["carian", "cari"], ["chorasmian", "chrs"],
    ["cyprominoan", "cpmn"], ["deseret", "dsrt"], ["dogra", "dogr"], ["elbasan", "elba"],
    ["elymaic", "elym"], ["gothic", "goth"], ["gurungkhema", "gukh"], ["hanunoo", "hano"],
    ["kiratrai", "krai"], ["lycian", "lyci"], ["mahajani", "mahj"], ["makasar", "maka"],
    ["medefaidrin", "medf"], ["meroitichieroglyphs", "mero"], ["nagmundari", "nagm"],
    ["ogham", "ogam"], ["olchiki", "olck"], ["oldnortharabian", "narb"], ["oldpermic", "perm"],
    ["oldsogdian", "sogo"], ["oldsoutharabian", "sarb"], ["oldturkic", "orkh"],
    ["olduyghur", "ougr"], ["palmyrene", "palm"], ["paucinhau", "pauc"], ["phagspa", "phag"],
    ["shavian", "shaw"], ["sidetic", "sidt"], ["sogdian", "sogd"], ["soyombo", "soyo"],
    ["sylotinagri", "sylo"], ["thaana", "thaa"], ["todhri", "todr"], ["toto", "toto"],
    ["vai", "vaii"], ["zanabazarsquare", "zanb"]]

/-- The length of each run of code points of one script, and one more than the position of the
script; zero stands for no script. -/
def table : List (Nat × Nat) := pairs (numbers
  ["cNBbAFGBbAFbVBBFPBBFFBXFBBbFFBBrHFbNBFFFBCcCUBeIGEEBBDECAEEBBBEEABEBBBEBBDEBABEBAUEBAcLEOcGQEf",
   "DVCGgNVBAbMbQCAbYbQCADbQBAcDXIAbBXEAGXLAFCBBGCBBOCBBDCBBbGCBBKCLGbACBGeECBBbICObYBAcIbYCADbYbW",
   "CbYgOOAcHeBCADeBbUeLCAPeLBAbCdVCABdVBALbYFAbICFAcXCBBbDCdDbKEGPbKCBbAbKELBAILCACLCAWLBAHLBABLD",
   "AELCAJLCACLCAELIABLEACLBAFLCAZLCADJBAGJEACJCAWJBAHJBACJBACJBACJCABJBAFJEACJCADJDABJHAEJBABJHAR",
   "JKADMBAJMBADMBAWMBAHMBACMBAFMCAKMBADMBADMCABMPAEMCAMMHAHMBADPBAIPCACPCAWPBAHPBACPBAFPCAJPCACPC",
   "ADPHADPEACPBAFPCASPKACIBAGIDADIBAEIDACIBABIBACIDACIDADIDAMIEAFIDADIBAEICABIGABIOAVIFANSBADSBAX",
   "SBAQSCAJSBADSBAESHACSBADSBACSCAESCAKSHAJSNQBADQBAXQBAKQBAFQCAJQBADQBAEQHACQFADQBAEQCAKQBADQMAN",
   "bCBADbCBAbZbCBADbCBAGbCEAQbCCAbAbCBADRBASRDAYRBAJRBABRCAHRDABREAGRBABRBAIRGAKRCADRMAcGeXEABBbC",
   "eXbLACTBABTBAFTBAYTBABTBAXTCAFTBABTBAHTBAKTCAETbGAcUbEBAbKbEEAbNbEBAbKbEBAPbEBAHbEEBCbEbLAgEbV",
   "bMWBABWFABWCAbRWBBEWjWNcVDBAEDCAHDBABDBAEDCAbPDBAEDCAbHDBAEDCAHDBABDBAEDCAPDBAcFDBAEDCAcPDCAbG",
   "DDAbADGAdIcFCAGcFCAyQcEbDfYDAcXeKDBLeKHAWeSJABeSVfQCBJAUfGMANcXBADcXBACcXMAdQbUCAKbUGAKbUGACbJ",
   "CBBbJBBUbJGAdLbJHAbRbJFAcScEKAbFbMBAMbMEAMbMEABbMDAMbMbEeTCAFeTLAbSbWEAbAbWGALbWDACbWbGbUbCdHC",
   "ACdHcLbPBAbDbPCALbPGAKbPGAObPCAbUGCAMGUAcZdCBAbYdCcMeQcAdFIAEdFcEcMDAPcMDADcMbWfZLVFAbRWCADWIe",
   "QIADGBBNGBBHGEBBGGBBGDBCGBBFAbMFFEBVbXFFEEFFENFBVcSFBEcMGjWFWECAGECAbMECAGECAIEBABEBABEBABEBAb",
   "FECAcBEBAPEBAOECAGEBATECADEBAJEBAMBCGdJBBALBBFCALBBFPBBANFDAbIBOAbHGPAbMBBEDBCFGBBFbBBBFRBbPFD",
   "BEAzQBWALBVAbjSBjWfFyEBCAfIBdSbGbGFeMcGFAHcGbMWBABWFABWCAcEcZHACcZOABcZXDJAHDBAHDBAHDBAHDBAHDB",
   "AHDBAHDBAHDBAbGVdQBbIAbAHBAdLHMAiGHbAAVBBHBBBHZBJHEGCNIBEHEBBAdIbICACGCBDbIBBdMOCBDOFAbRcCBAdQ",
   "NBAQBbGcCbMBJABBQObFNBAcMBbFNdDBbVOBBdKOgMBjtOHcMBbfbKHbsVfDDAcDfDJAbWdTlOgRUAdSVdKdDIAbIBdYFD",
   "BdEFUAPFbTgNDAKBGAcEgIIAcSeMIAMeMGAbGbKbUdQBBBdQbKeJLABeJbDNDAdAcJBABBKcJEACcJbFbVBAcDbSJAObSC",
   "AKbSCAEbSbGbVcPeUYAFeUXcPKAGDCAGDCAGDJAHDBAHDBAbRFBBJFBEEFCBEAdCcFbUcPCAKcPGAqnSNMAXNEAbXNmnCA",
   "oCHCAeCHbMAHFMAFbQFAbAXBAFXBABXBACXBACXBAKXtACCBfOCbGAQCQGKBGAOGCVbJBBATBBAEBEAFCBAfFCCABBBAbG",
   "BbAFGBbAFLBKOBBbTOCBbFNDAGNCAGNCAGNCADNDAHBBAHBKAFBCAMbBBAbAbBBATbBBACbBBAPbBCAObBbIAeTbBFADBE",
   "AbTBDAJBdBEBANBDABEbVAbTBBGfAAbDfSDAbXfHPABGbBBEAbKeEJADeEbBfOFAbRgBFAbEfABABfAbKeFEAOeFbQAdCf",
   "KbWgJbEeHCAKeHGAbKeGEAbKeGEAbOfMIAcAdILABdILbABAPbABAHbABACbABALbABAPbABAHbABACbADAcAgPMAlZcNJ",
   "AWcNKAIcNYAGFBAbQFBAJFcRAGbFCABbFBAbSbFBACbFDABbFCABbFWdMBAJdMbGgGbFdZIAJdZbWATcIBACcIFAFcIbCe",
   "IDABeIbAdUFABdUbAgKbMAbGfWYcQEAUcQCAbUcQEZBACZFAIZBADZBAbDZCADZEAKZHAJZHAbGgDbGgAbGAbNdWEAMdWJ",
   "AcCdBDAHdBWdOCAIdOTdNFAIdNScVHAEcVMAHcVdCAcVgEcDAbZcUNAbZcUHAGcUbOdLIAKdLGAbMcHDAbDcHIACcHiAAb",
   "FCBAbQdABADdACACdAQAGCIAJCbHAGCbOgCIAbQgLWAbAgFbMAbCfIUAXfNJAdAcDEAbKcDJABcDcPdPKABdPCAZePHAKe",
   "PGAcBdJBASdJIAbNfTJAdSeNBAURLASdRBAbVdRcKAHbNBABbNBAEbNBAPbNBALbNGAcHdSFAKdSGAEKBAIKCACKCAWKBA",
   "HKBACKBAFKBABGJKCACKCADKCABKGABKFAHKCAHKDAFKLAKUBABUCABUBAbMUBAKUBABUCABUBAEUBAKUBACUIACUbDAdO",
   "eABAFeAbEAcUeYIAKeYgKAcCeOCAbMeObIAcRdYLAKdYGANbJTAcGeVGAKeVGAUbVbCAbBcBCAPcBEAXcBhDAcIfLdWAdF",
   "fCMABfCHYCABYCAIYBACYBAbEYBACYCAMYJAKYcSAIcTCAbUcTCALcTbBAcUgSIAdFgMNAQcEcFgHHAKbKdIAIeNdKAbIe",
   "ROAKeRGAJbRBAbTbRBAObRKAbDbRDAbGcOCAWcOBAOcOcVAHbDBACbDBAbSbDDABbDBACbDBAJbDIAKbDGAGbHBACbHBAb",
   "LbHBACbHBAGbHHAKbHGAbSeZEAKeZjMAZfUHARcKBAbPcKDAbDcKdHABdTPAbYINABIbjMbTdYAeHbTBAFbTLAhObTdxKA",
   "dVfJNAbqSdKKAfxRdKFAwLfEkdDAcGfPcoSAvXdDHAbFcSBAKcSEACcSdBeWBAKeWGAbEdECAGdEKAcSbOKAKbOBAHbOBA",
   "VbOFATbOqQAcGfRhQAdNfVFAZdGCAZdGbSAcXcREAcFcRHARcRcMABbZBeCCHBcLLAHHJAkfWbZsCcLbPABcLbFbZdTAeL",
   "bZmwRAEOBAHOBACOBABOlBbIDOPABbIbDADbICABOOAEOIApGeCdkUAeDbLFANbLDAJbLHAKbLCAEbLEBfvGAjTBDAqUBG",
   "AXBPARBPAbUGCAXGJAeMBcIAjMBKAbNBCAcKBDGRBIGCBHGbEBEGcJBVAcSEeSAUBMAUBMAdJBJAZBfFAdHBBAcTBBACBC",
   "ABBCACBCAEBBAMBBABBBAHBBAcNBBAEBCAIBBAHBBAbCBBAEBBAFBBABBDAHBBAnCBCAlGBCAbYBzCcWPAFcWBAPcWbqMA",
   "bFFGAGFiFAHbGBARbGCAHbGBACbGBAFbGFAcKVbHABVeIAbTbXDAObXCAKbXEACbXmIAbFgQRAcGfBFABfBrWAbQfXiGAb",
   "ReDEABeDhKAbFcYBAWcYIACcYiQAHDBAEDBACDBAPDBAhPdXCAQdXbPAcYcAEAKcAEACcAbeFAcQBcYAcJBhMAECBAbBCB",
   "ACCBABCCABCBAKCBAECBABCBABCGABCEABCBABCBABCBADCBACCBABCCABCBABCBABCBABCBABCBACCBABCCAECBAHCBAE",
   "CBAECBABCBAKCBARCFADCBAFCBARCcAACCkKAbSBEAdWBMAPBCAPBBAPBBAbLBKAgSBcEAbABBbICBNAbSBEAJBHACBOAG",
   "BfYAblXBDARBDANBDAiKBGAMBEABBPAMBEAcEBIAKBGAbOBIAbEBCAMBEACBOAJBbNAnGBIAOBCANBDALBDAcFBBABBEAQ",
   "BCAMBEAKBHAfRBBAdZBbnPAclfCHbGAgmOHCAioCHCAlbLHPAxYHdqWAuWHcfYAhhZHFAmoOHbogoDABBbEAdSBeYAjGG"])

/-- The number of code points before and in each run that is shared among scripts, the number of
these scripts, and one more than the position of each. -/
def sharedTable : List Nat := numbers
  ["hBBQEFHWbGbHbLcGdBdUfHfMfOfTgBgJtWBHFLVbKdTeXgQKBCFcCBDCFcCBBCFdTJBCFeXBBCFcCbMBIEFVcFcGeReTgB",
   "ABIEFVcFeGeReTgPABEFVcFcZABFFbGbYeReXABLEFVbYcFcGcZdIeGfOgPABGFObGcGfMfOABFEFVcZgBABJFXbLbYcGc",
   "ZeTgBgPABLEFVXbLbQbYcZeTfOgBABCFcZABDFbLbYABEFVcFeGABDFcFeTABCFeRABCDFBBCFeRABDFVgPBBEEFgBgPPB",
   "GFObLbYcFcZABEFbLbYcFABCFbYHBDFbYeRABCFbYBBDFbYcFABHFbYcFdIeReXfOQBBECBBESBCFeGFBDFdIgPENBFECC",
   "EcGkJBCVgBABCVbGACCFVABCVbGjXBDWbGbQfABHCbYcHdAdLeBgOOBHCbYcHdAdLeBgOABDCbYgOCBICbYcAcHdAdLeBg",
   "ObGBJCbYcAcVdLdVdWgFgLKLCCbYKKDCdAgOGBCCbYdVBCCdLyMBPFIJKLMPQSbCbKcTeAeNeYABNFIJKLMPQSbCbKeAeY",
   "RBVIJKLMPQRSbCbDbHbKcTdSeDeVeYfLfTgNABXIJKLMPQRSbCbDbHbKbMcTdSeDeVeYfLfPfTgNAKEbKdPfLfTeOKDLdJ",
   "gNeOKCJbNeOKCMdRjMOCIKjIKDQUcTbgQKDbVdJeTgVBDFWbGcgLDBeKcTCEcXeSfGfQhVCCbJgIBBCbJgIbvEBEKLQbKA",
   "BBbKABEKLQbKABDKQbKABBbKABFLSbKeAeYABDLSbKABDbKeAeNABELSbKeAABCbKeNABGIPQSbCbKABBbKACCbKeNACBb",
   "KABCbKeNABCLbKABDbKeAeYAGBbKABDbKcTeAABDLbKeNABCbKeAABBbKABELbKeAeNAEBbKABLKLPQRSUbCbKcTeYABCK",
   "bKABEKQUbKACCLbKABBLACCKbKABBcThPCBEcCBDFVbYBBBbYvSBDFbJgIbFBCCcAKBGWbGcUfHfSgECBEEcUfHfWfQBDF",
   "KbKezMBCFcGYBCdBgEABHWcUdBdPdUeLfHKBBbLEBDCcAcUBBCVbGqMQCHbZBBHHNObIbJcCfDABIHNObIbJcCfDgIABFH",
   "NObIcCCBBHBCIHNObEbIbJcCfDACJHNObEbIbJcCdTfDAGGHNObIcCfDBBFHNObIcCAIGHNObIcCfDAEFHNObIcCKECHcC",
   "CBFHNObIcCAFCObIBBFHNObIcCECDHObIACBHdLECObIDBCObIdMBGHNObIcCfDABCObIfRQBHbGbMBHJBCHbZbWbOBHcE",
   "bXBHPMBHbZBBHdKZBHKFBHdSbFBHbriUBCVbGfOICFHlKDQJMQUbCbKcTdPdRdSdYeNeVeYfLfTADPJMQUbKcTdPdRdSdY",
   "eNeVeYfLfTACLJMbKdPdRdSdYeVeYfLfTABMJMbKdPdRdSdYeNeVeYfLfTABLJMbKdPdRdSdYeVeYfLfThBBDLUbKBBCIb",
   "KcGBDFbVdQgEBCcJdHbfpMCCCeBgWBCCgOKBCCgOcTCFHNObIcCkWFGHNObIcCfDKBCObIbTCCObInOCDbBbFfJABCbBbF",
   "EbTDbBbFcNDJCbBbFqAbCCCcGdaKBCdWgFdbIBCIKBBCIKcDCCIKetVCCIKBBCIKchjWEBbLipWSBHlrYCBH"]

/-- The script of a character. -/
def of (c : Char) : Option Nat :=
  match labelAt table c.toNat with
  | some (script + 1) => some script
  | _ => none

/-- The scripts that share a code point, if it lies in a run of the shared table. -/
def sharedAt? (fuel : Nat) (table : List Nat) (n : Nat) : Option (List Nat) :=
  match fuel, table with
  | fuel + 1, gap :: length :: count :: rest =>
    if n < gap then none
    else if n < gap + length then some (rest.take count)
    else sharedAt? fuel (rest.drop count) (n - gap - length)
  | _, _ => none

/-- A character is used with a script. -/
def isUsedWith (script : Nat) (c : Char) : Bool :=
  match sharedAt? sharedTable.length sharedTable c.toNat with
  | some scripts => scripts.contains (script + 1)
  | none => of c == some script

/-- The script of a name in lower case without separators. -/
def named? (name : String) : Option Nat := names.findIdx? (·.contains name)

end Script
end Schemata.Unicode
