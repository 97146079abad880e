import Schemata.Unicode.CaseFolding
import Schemata.Unicode.Normalization

/-!
# Characters of domain names

Domain names are compared without regard to case and to the width and shape of characters. A table,
as of version 17 of the Unicode standard, says which characters a name may be written with, and
which ones it then consists of.

Results: `domainName_nil` (no characters make no name).
-/
namespace Schemata.Uri

open Unicode

/-- The code points that may be written. -/
def domainCharacters : CodeSet := .ofLines
  ["AeYbGbcACGEHBBBUBpHBbMCbYCDBcDIbBEGRWBhKBbWCcHCdXOcHCbXCPBbCCBBLFbGHcXBgFBICCCWBHBBDECJCCCEIBE",
   "CBFCZCDBGECCWBHBCBCBCCBBFECCDDBHEBBHRKDBJBDBWBHBCBFCKBDBDCBPECMHHBDBICCCWBHBCBFCJCCCDHDECBFCSK",
   "CBGDDBEDCBBBCDCDDDMEFDDBECBGBOVFNBDBXBQCJBDBEHCBDBCCECKHWBDBXBKBFCJBDBEHCFDBECKBDMNBDBbZBDBGEQ",
   "CbABDBSDYBJBBCHDBEGBBBIGKCDMcGEbDbLCBBBFBYBBBXCFBBBHBKCEbGcUBbKEbNBbKBPBNbLhQBBFBCoNBECHBBBECb",
   "PBECbHBECHBBBECPBcFBECcPCbGDbAGdICGCyQBbCDdLHWJYJUMNBDBCMdQCKGKGbAGdLHbRFcSKbFBMEMEBDbQCFLbSEb",
   "AGLDcKCcNBbDCLGKGOCbUCMUcZBgKIcIDPDcKFbRCLIbRFuOCGCbMCGCIBBBBBBBbFCcBBPBOCGBTCDBJBOCUDBHcCFICb",
   "BBNDbIObHPfKEzQWLVbOUcpKCoSFbTBBFBCcEHCOYJHBHBHBHBHBHBHBHBeWbIbABdLMiGbQcMBdICdZFbRBdQBdIKbVBq",
   "CBEBQBbqrSDcDJnKUhCIiNUcIDKGcEIcSIMGeMLbEDdABLEbHBcDJOCKCdZYbCKGCGCGJHBHBcIEeWCKGqnSMXEbXmnCoC",
   "CeCbMHMFFbABFBBBCBCBzAbGbIBGHQBbHCTBEEFBfFCBBhIDGCGCGCDDHBHRMBbABTBCBPCObIeTFDEbTDdKBNDBbVbUfA",
   "bDDbXPbCEbKJbEFbRFbEBbLEObQgCCKGbKEbKEbOIcALMBPBHBCBLBPBHBCDcAMlZJWKIYGBbQBJcRGCBBbSBCDBCXBcUI",
   "JbWTBCFbHDbBFbBbMcEEUCbYBCFIBDBbDCDEKHJHcMbGbNEMJcCDbDCbBFbAHEMHdCcVcDbZNbZHbUIKGbMDbDICiAbFBb",
   "QBDCCQGIJbHbUIbQWbAbMbCUXJdAEbKJcKBFNZHKGcBBSIbNJdSBULSBbVcKHBBBEBPBLGcHFKGEBICCCWBHBCBFBKCCCD",
   "CBGBFHCHDFLKBBCBBbMBKBBCBBEBKBCICbDdOBFbEcUIKgKcCCbMbIcRLKGNTcGGKGUbCbBCPEXhDcIdWdFMICBCIBCBbE",
   "BCCMJKcSICbUCLbBcUIdFNcVHKdIIdKbIOKGJBbTBOKbDDbGCWBOcVHBCBbSDBBCBJIKGGBCBbLBCBGHKGbSEKjMZHRBbP",
   "DbDdHBPbYNbjNdYeHBFLhOdxKdVNbpGQWKfxRFwLkdDcGcoSvXHbFBKEdDBKGbECGKcSKKBHBVFTqQcGhQdNFZCZbScXEc",
   "FHRcMFLHJkxYbPbGdTeLmwREBHBCBlFPBbDDCBOEIpGdkUeDFNDJHKCIfvGjTDqUGXPRPbUCXJeMcIjMKbNChMVcSeSUMU",
   "MdJJZfFdHBcTBCCBCCCEBMBBBHBcNBECIBHBbCBEBFBBDHBnCClGCbbAPFBPbqMbFGGiFHBRCHBCBFFcKbHBeIbTDOCKEC",
   "mIbFRcGFBrWbQiGbREBhKbFBWICiQHBEBCBPBhPCQbPcYEKECbeFcQcYcJhMEBbBBCBBCBBKBEBBBBGBEBBBBBBDBCBBCB",
   "BBBBBBBBBCBBCEBHBEBEBBBKBRFDBFBRcACkKbSEdWMPCPBPBbLLgRcEbDNbSEJHCOGfYblXDRDNDiKGMEBPMEcEIKGbOI",
   "bECMECOJbNnGIOCNDLDcFBBEQCMEKHfRBdZbnPclfCbGgmOCioCClbLPxYdqWuWcfYhhZFmoObogxYjG"]

/-- The code points that are left out. -/
def domainIgnored : CodeSet := .ofLines
  ["gRBzXBfiLCckHCdHFdaPBdGFFGgkYBczmPQjFBgEBctoXEhwXIbtljHjG"]

/-- The runs of code points that are replaced by others for another reason than case. -/
def domainShifts : List Shift := Shift.ofLines
  ["gEAjVKAfPICjVHAkLBAfTiRAAhTAAcYDbsXBAfTCAbsJBAeNBAeLBAeBBAbsHBAbsFbOAjPBAbwJBAbvXBAbvPBAgBiOAA",
   "QAZBALBARbEAdPHAeDefBABtCAcLbaAgOAdKKPdmQAvuZBAvkVBDvvBDJvvBBAusFCHvvBIAvvDBAunRBAvvFBAvvDBCvv",
   "BCAvuZBAvwTBCukTCAfFBAvwZBCvwXCAukNBCukLCAvxBCAvwXBDvwVBAvfVCAulPBCeTCAvxBBCvwVCAePBAukBBAvwZB",
   "AeFBEtlLDCtkDCAvyNBAvxXBCvxTCCtmDCAtlDBCtkVPAtcVbJAurHBAwdLBAurFBAvsTBAuqVBAwdNBAuqTBAuqRBAuqL",
   "BEuqHDAdJBAumNBAuqHBAcVBAumPBAuqFBAuqJBGuqHEAuqDBCupLCAvgDBCupDCAlZBCupFCAweBBEupBDAtsNwFAydRB",
   "AydTBAydVBAydXBAydZBAyeBBAyeDBAyeFBAyeHBAyeJBAyeLHABbEAyhHbWAykZRAylBBAygTDKylBGAymFBAbfIBAykZ",
   "BCymRCAyhLBSymHKAynLBAbeCBAymFBCynXDAyjTBAyjNBAyiVBAyiFBAwxHBAyjPBGyjLEAyjJBCyjFdZAysJFAxfZDCy",
   "sRCAysTBAysVBAysXBAyeHBAysZBAytBBAysXBDysZGEytDDAytFBAytHHAytFEAytNECyvRDAyvRBCyvTDAyvJBAyvHBG",
   "utLEAywDDAwiPBAwjRBAwjTBAwiVBAqCFAyxLBCyxNCCyxHYAyzDEAyyLFAyyRDAyzVBCzaPCAyzZBAzaJEAyzRFAyzXDA",
   "zbBBCzbVCAzbFbcJQbbkNdIbYbbnLbAbYbbpLbAAbbvFcwOAbhjVBAbhiZjIAbBlSAbuiUdGAdhiUNAxmMBAxpMBAxqMBA",
   "xrCBAxtABAxwIBAxwUBAxyGBAyaEBAzxSBAbaaOBAbaaYBAbacQBAbaeCBAbafQBAbajQBAbalEBAbalYBAbaxUBAbbeYB",
   "AbbhABAbbhIBAbbjOBAbbkEBAbbmEBAbbnCBAbboYBAbbsWBAbbuEBAbbwEBAbecGBAbehSBAbfrABAbfsSBAbftGBAbfu",
   "ABAbfvIBAbgbCBAbhlSBAbhpIBAbhyMBAbiaEBAbibOBAbidEBAbihGBAbihKBAbjjEBAbjjWBAbjkSBAbjlQBAbjuMBAb",
   "jvABAbjvIBAbkeGBAbkeYBAbkfWBAbkgKBAbklABAbkmGBAbknOBAbktQBAbmmGBAbmpSBAbmrGBAbowCBAbowKBAbpcSB",
   "AbpdWBAbpeUBAbpgIBAbpjGBAbpjOBAbqeABAbqfUBAbqiEBAbtiGBAbtnGBAbtoYBAbttIBAbtvCBAbtvSBAbtwEBAbua",
   "CBAbuaKBAbucUBAbxhSBAbyqABAbyqWBAbyrEBAbyrKBAbyrYBAbytGBAbytIBAbyzMBAbzqABAbzqIBAcaqIBAcarABAc",
   "auUBAcavGBAcavWBAcawKBAcbdIBAcbdUBAcbvGBAcbvSBAcbzKBAccaQBAcceEBAccwIBAccwUBAccyABAcdxCBAcegSB",
   "AcehCBAcevABAcfbQBAcffCBAcgiCBAcgsGBAcikIBAcimIBAciqQBAciuMBAcizQBAcjaKBAcjaUBAcjdGBAcjjABAcjj",
   "SBAckkGBAckkSBAcklIBAcklYBAcknCBAckoEBAckoKBAckuKBAckuQBAckvABAcnsKBAcnuQBAcpeQBAcpfMBAcphEBAc",
   "qcWBAcqdUBAcqjEBAcqmQBAcseEBAcsfGBAcsgIBAcsiYBAcslSBActaYBActbUBActgWBActzWBAcucEBAcusEBAcutSB",
   "AcuuABAcvkWBAcvyYBAcwiMBAcwiWBAcwjEBAczcYBAczdOBAczpMBAdabGBAdabKBAdaeYBAdamYBAdanWBAdaoCBAdao",
   "OBAdawABAdayOBAdayYBAdazYBAdbmSBAdbqOBAdbqUBAdceUBAdceYBAdcgIBAdczQBAdddGBAdddSBAddjABAddjSBAd",
   "djWBAddkOBAddmUBAderCBAdfvUBAdfwMBAdfzIBAdgaYBAdgbMBAdgcEBAdgcKBAdgfKBAdgfQBAdggWBAdghEBAdgiCB",
   "AdgkCBAdglEBAdglSBAdgqEBAdgrGBAdgrMbRAbkgTCAbkfVcAAcTCAbanYBCbaoCjOCyjXCDxwZBAyjZCAxwZBEykDDKx",
   "xBGAyjBBEykRDAyiVBSykTKbOyeTWCymJCCxyTCAxyNBAxyLBAxyDBAxxXBAxxVBAymLBAxxRBAxxPBCymPCAymNBCymLC",
   "AymFBAymDBIymBFAylXBAylRBAykZBAykNBAykFBCxxPCEyjPDCygJCAygFBCyfPCAyfNBAyeVBAyeREAvnWBAvyOBAvoK",
   "BAbcgABAvoIBAvqYBAvoGBAbzfEBAvuCBAvpCBAvnEBAbdyUBAbclWBAwbEgJAbaoCBAbhmSBAbmvIBAcdnCZAzhFBCzhD",
   "CEzhBDAzgZBCzgXCIzgVFAdocABAdroKBAdthOBAdwtYBAdynCBAeagGBAedsQBAehfABAeiyEBAemkOBAeodSBAepwWBA",
   "erqABAetjEDAeigICAuvOBAvgGBAuwCBAbbnSBAvgQBAxkQBAuvIBAxkIBAvcCBAyuIBAbntSBAbuwMBAbrrKBAbnvYBAc",
   "udYBAbbsABAbmwWBAbopMBAbntEBAcbnQBAzjEBAbwkEBAcqfEBAcbpSBAyiIBAcbzABAbylUBAbdkYBActbEBAxdQBAyw",
   "IBAbsdUBAcyuSBAvoABAxlUBAbqzOBAutOBAuwEBAutMBAbgtQBAzfQBAyrKBAbezYBAbewCBAbzrIBAvlWBAcqgGBAysW",
   "BAbdcQbGAbqXBAbqVBAbqTBAbqRBCbqPCAbqNBAbqLBAbqJBAbqHBAbqFBAbqDBAbqBBAbpZBAbpXBAbpVBAbpTBAbpPBA",
   "bpNBAbpLBKbpJGAbpFBAbpBBAboXBAboTBIboPFAboNBAboLBKboJGGboHbruNAesyLBAesyJiDABdNAevhDRAevxXVAew",
   "wHBAewxPBAewxLBAewwREAewiZBAewfRbhJAdeVBAcXBAexyZBAZKAexxFHgCekzNbeeQAhdtJBAhduVBChduRCEhduFDA",
   "hdtLBAhdtJBAhicPbNAhdmBBAhdmDBAhdlLBAhdlNBAhdlPBAhdlRBAhdlNBAhdlPBDhdlRBDhdlTDAhdlVBAhdlXBAhdm",
   "LBAhdmNBAhdmPBAhdmRBAhdmJBAhdmLBAhdmNBAhdmPBAhdnDBAhdnFBAhdnHBAhdnJBAhdkDBAhdkFBDhdkHBDhdkJDAh",
   "dkLBAhdkNBAhdnFBAhdnHBAhdnJBAhdnLBAhdnPBAhdnRBAhdnTBAhdnVBAhdnRBAhdnTBAhdnVBChdnXCAhdnZBAhdoBB",
   "AhdoDBAhdnTBAhdnVBDhdnZBDhdoBDAhdoPBAhdoRBAhdnNBAhdnPBAhdoFBAhdoHBAhdmNBAhdmPBAhdmRBAhdmTBAhdm",
   "JBAhdmLBAhdmNBAhdmPBAhdmJBAhdmLBAhdmNBAhdmPBAhdmVBAhdmXBAhdmZBAhdnBBAhdmLBChdmNCAhdmPBAhdmRBAh",
   "dmTBAhdmLBChdmNCAhdmPBAhdmRBAhdmTBAhdnBBAhdnDBAhdnFBAhdnHBAhdlVBChdlXCAhdlZbIAhdrNBAhdrPBAhdrR",
   "BAhdrTBAhdpVBAhdpXBDhdqBBDhdqDEAhdqBBAhdqDBAhdqRBAhdqTBAhdqNBAhdqPBAhdqDBAhdqFBAhdqHBAhdqJBAhe",
   "aVBAheaXTAhdsHBAhdsJBAhdsLBAhdsNuJAhkhRBAgabVCChkgVCAhkiXBAhkgRBCgaaRbAAgmfXBAgmgBBAhkgLBAhkgN",
   "BChkkVCAhkePBAhkeNBCgadLCCgadXCCgaeNCCgaeVCGgaeRGAhkiHBAhkiFFAhkiLBAhkiNBAhkiPBAhkmPBAgagTDAhk",
   "lTBAhklXBAhklPBAhknZBAgmiXBChknPCAhkhJBAhkhHBCgagFCAhkoLBAhkoHBChkoBCAhknZBAhkmXBAhkmVBAhkmZCA",
   "hkkTBChkpDCAhknDVChgcZCChgdBCChgdDCChgdFCChgdHCAhgdJBAhgdLBChgdNCChgdPCAhgdRBAhgdTBChgdVCChgdX",
   "CAhgdZBAhgeBBChgeDCAhgeFBAhgeHBChgeJCAhgeLBAhgeNBChgePCAhgeRBAhgeTBChgeVCAhgeXBAhgeZBChgfBCChg",
   "fDCChgfFCChgfHCChgfJCAhgfLBAhgfNBChgfPCAhgfRBAhgfTBChgfVCAhgfXBAhgfZBChggBCAhggDBAhggFBChggHCA",
   "hggJBAhggLBChggNCAhggPBAhggRBChggTCAhggVBAhggXBChggZCAhghBBAhghDBAhghFBAhggTBAhggVBAhggXBChggZ",
   "CAhghBBAhghDBChghFCAhghHBAhghJBChghLCAhghNBAhghPBChghRCAhghTBAhghVBChghXCAhghZBAhgiBBChgiDCAhg",
   "iFBAhgiHBChgiJCChgiLCChgiNCAhgiPBAhgiRBAhgiTNcKhlbBbGbYhkyPbAcShlbBbKCgfzFCAhlhLBCgbaXCAgbbXBA",
   "gaiTBAgajNBAgapVBAgapTBAgapRBAgapPBAgapNBAgalDBAgalBBAgakZBAganVBAgajNBAgaqNBAgaqLBAgaqJBAgaqH",
   "BCgaqFCAgaqDBAgaqBBAgapZBAgapXBAgapVBAgapTBAgapRBAgapPBAgapNBAgapLBAgapJBAgapFBAgapDBAgapBBKga",
   "oZGAgaoVBAgaoRBAgaoNBAgaoJBIgaoFFAgaoDBAgaoBBKganZGAganXBAganRBCgauRDCgytDCDgygFBAgytFCAgygFBE",
   "gytJDKgygHGAgysHBEgytXDAgysBBSgytZNKgyoFIKgyoJIKgyoNIEgyoRGChliHCAhlhRCAhliHBAhliLBAgncBCAgjuP",
   "BGgmkNEAgjiVBAgjfPcwPChplPCAhqxLBAhpqBBAhpvNCDhppNBAcruHCAhppRBChpvTCAgvfRBAhpvVBAhpvLBAhppTBA",
   "hpvDBAhpvJBAhpvPBAhprDBAhqtVBAhprFBAhpvJBAhptFBChpqJCAhpvHBAghdWBAcutPBAhpvJBAghdSBAhptBBAghdQ",
   "BAhqyLBChpvDCAhrjBBAhpvBBAghdIBChpuZCAhpuXBAhprXBAhpsDBAcrxBBAhpsFBAhpuRBAgkbLCAhpuJBChptBCAhp",
   "tXBEhqkPDAghcCBAghdOcwqUbYnktLbASnkzFcrObYnqeNbAbYnqgNbAbYnqiNbAZnqkNBFnqkNIRnqkNRbYnqmNbAbYnq",
   "oNbADnqqNDAnqqNDAnqqNDCnqqNEGnqqNFOnqqNIGnqsNFVnqsNDFnqsNIJnqsNKbYnquNbAbYnqwNbACnqyNDGnqyNGOn",
   "qyNJMnqyNIbYnraNbACnrcNDGnrcNFInrcNGAnrcNEMnrcNIbYnreNbAbYnrgNbAbYnriNbAbYnrkNbAbYnrmNbAbYnroN",
   "bAbYnrqNbAbYnrsNbAbYnruNbAbYnrwNbAbYnryNbAbYnsaNbAbYnscNbAAnroNBAnquLDbGnprPRAnpsJBMnprPHAmsuD",
   "BbGnptPRAnptNBMnptPHAmswNBAnpvHBAnpvDBAnpvBBAnpuFBAnpuRBAnpuVBbGnpwBRAnpwVBMnpwBHAmsyPBbGnpyBR",
   "AnpxZBMnpyBHAmtaZBAnpzTBAnpzPBAnpzNBAnpyRBAnpzDBAnpzHBbGnqaNRAnqbHBMnqaNHAmtdBBbGnqcNRAnqcLBMn",
   "qcNHAmtfLBAnqeFBAnqeBBAnqdZBAnqdDBAnqdPBAnqdTBbGnqeZRAnqfTBMnqeZHAmthNBbGnqgZRAnqgXBMnqgZHAmtj",
   "XBAnqiRBAnqiNBAnqiLBAnqhPBAnqiBBAnqiFBbGnqjLRAnqkFBMnqjLHAmtlZBbGnqlLRAnqlJBMnqlLHAmtoJBAnqnDB",
   "AnqmZBAnqmXBAnqmBBAnqmNBAnqmRBAnqkNBAnqkPDSntfFKSntfZKSntgTKSnthNKSntiHddAQnwnNJEnwnLDUnwnJLAn",
   "wnFBCnwnDCAjdqNBAnwcPBAnwmTBAnwmRBAnwbPBAnwgDBAnwdTBQnwqBJCnwpZCCnwpVCAnwpTBKnwpRGCnwpPCAnwkHB",
   "AnwoXBAnwpBBAnwoJBAnwiPBAjdxLBAnwiHfdRCofmVCAofmPBAofmLCAofkRBAofmLBAofmXBAofmFBAofkVBGoflLEAo",
   "fmZBAofmPBAofmBBAofnBBAofmDBAofnNBAofnJBCofoFCAofoBBAofnZBAofnPBAofnNBAofnLBAofjNBAofdTBAoffTB",
   "AofjRCAofpHBAofpBCAofnDDAofpJCAofnHBGofnXEAofpLBAofpBBAofoNBAofpNBAofoPCAofpVBCofqRCAofqNCAofq",
   "BCAofpXHAofrNFAofrVCAofpTCDofqJDAofrXBAofrNCAofrZBAofrBCAofsHDAofsZCAofsNCAofsJCAofiRCAofoPCAo",
   "fuFBAoftZCAofsBDAofuHBAoftPBAofsFBDofsVDAofsVBAofuJBAoftZBAoftLBAofuLBAoftNCAofuTBCofvPCAofvLC",
   "AofuZBAofuXBAofuVBAofqXCAofnDCCofwRCAofwLBAofwHBCofuNCAofwHBAofwTBAofwBBAofuRCEofvHDAofwVBAofw",
   "LBAofvXBAofwXBAofvZBAofxJBAofxFBCofyBCAofxXBAofxVBAofxLBAofxJBAofxHGAofzDBAofyXBAofyTCAofwZBAo",
   "fyTBAofzFBAofyNBAofxDCEofxTDAofzHBAofyXBAofyJBAofzJBAofyLBAofzVBAofzRBCogaNCAogaJBAogaHBAofzXB",
   "AofzVBAofzTyAAomgTBAomfREbYomhHiCAnchTOAlquJBAlwbJBAmbtZBAnchRBAmftNBAlxtTBAkmvDBAlxsTBAmfrZBA",
   "lnxPBAlfoZBAloiDBAmcyFBAlsxLBAmdnDBAlogRBAmdcFBAkwkRBAlcoZBAkktNBAlxyDBAmbnBBAlheHBAlqqLBAlqbT",
   "BAmgfXBAmgfHBAkiaRBAlufBBAmgcTBAmbtDBAlqiHBAkkfFBAlqwHBAkzhXBAkyoVBAmbrZBAlhqVBAlnhXBAlniBBAlc",
   "pDBAmcxPBAmalJBAkhhZVAltaNBAmbwDdqTSouoT"]

/-- The code points that are replaced by several. -/
def domainSequences : List (Nat × List Nat) := sequences 0 (numbers
  ["gMCbGbdWHCbGbdSFCbGbdPECbGbfBEDbXmfScABDbXmfSbYBDbZmfScAeKCeBbdVCCeBeCBCeBeCMCeEhBBCeEhBJCbaYe",
   "GeTCdWoSBCdWoSBCdWoSBCeEeCBCeEeCBCeEeCBCeGeCBCeGeCBCeGeCbLCdWeSBCdWeSBCdWeSiVCbGbdUBCbGbdVBCbG",
   "bdYBCbGbfCBCbGbdRBCbGbdZgBCbGbkRKCbGbdPBDbGbdWbdPtUCcbDccGjECciPclOBCcjWclOBCcoTclOBCcjYclOcyD",
   "CfkVfjUeYCfpTfoSbPCfoLfnTBCfoLfoBfYDfyOfwBfwQCDfyPfwBfwQfsZCdTbbAiWCltGbkRBCltHbkRBCltIbkRBClt",
   "JbkRBCltKbkRBCltLbkRBCltMbkRBCltNbkRBCltGbkRBCltHbkRBCltIbkRBCltJbkRBCltKbkRBCltLbkRBCltMbkRBC",
   "ltNbkRBCluMbkRBCluNbkRBCluObkRBCluPbkRBCluQbkRBCluRbkRBCluSbkRBCluTbkRBCluMbkRBCluNbkRBCluObkR",
   "BCluPbkRBCluQbkRBCluRbkRBCluSbkRBCluTbkRBClwYbkRBClwZbkRBClxAbkRBClxBbkRBClxCbkRBClxDbkRBClxEb",
   "kRBClxFbkRBClwYbkRBClwZbkRBClxAbkRBClxBbkRBClxCbkRBClxDbkRBClxEbkRBClxFbkRDClxObkRBCbkJbkRBCbk",
   "EbkRDCmaGbkRFCbkJbkRBCbGbeHCCbGbeHBCbGbgCBDbGbdWbgCBClxSbkRBCbkPbkRBCbkGbkRDCmaWbkRFCbkPbkRBDb",
   "GbeHbdOBDbGbeHbdPBDbGbeHbgCODbGbeIbdOBDbGbeIbdPBDbGbeIbgCODbGbdWbdOBDbGbdWbdPEClyAbkRBCblHbkRB",
   "CblMbkRDCmcSbkRFCblHbkRBCbGbdPBCbGbeIZCbGbfNbCCmfAmfABDmfAmfAmfACCmfDmfDBDmfDmfDmfDFCbHbHCCbGb",
   "dTJCcLcLBCcLbHBCbHcLOEmfAmfAmfAmfAdDCeKeLdKDdTbVdVBDdTbVeLCCgUdVCDdVbVeHBDdVbVeNDCgUdYNCeGeHKC",
   "eLeFBDeMdXeEBCeMeFZDdYdTeQVDbXmfScDBDbXmfScFBEbXmfSbXbWBDbXmfSbZBDbYmfSbZBDbXmfScBBDbYmfScBBDb",
   "ZmfScBBDcAmfScBBDbXmfScCBDcBmfScCBDbXmfScEBDbZmfScEBDcBmfScEBDcDmfScEBCbXmfSCCeBeBBDeBeBeBBCeB",
   "eOCCeOeBBDeOeBeBBEeOeBeBeBBCeBeQCCeQeBBDeQeBeBGCeBeBBDeBeBeBBCeBeOCCeOeBBDeOeBeBBEeOeBeBeBBCeB",
   "eQCCeQeBBDeQeBeBODbWmfSbZgHCmyLmyLBDmyLmyLmyLCCmyOmyOBDmyOmyOmyOvXCbXbWBCbXbXBCbXbYBCbXbZBCbXc",
   "ABCbXcBBCbXcCBCbXcDBCbXcEBCbXcFBCbYbWBDbObXbPBDbObYbPBDbObZbPBDbOcAbPBDbOcBbPBDbOcCbPBDbOcDbPB",
   "DbOcEbPBDbOcFbPBEbObXbWbPBEbObXbXbPBEbObXbYbPBEbObXbZbPBEbObXcAbPBEbObXcBbPBEbObXcCbPBEbObXcDb",
   "PBEbObXcEbPBEbObXcFbPBEbObYbWbPVDbOdTbPBDbOdUbPBDbOdVbPBDbOdWbPBDbOdXbPBDbOdYbPBDbOdZbPBDbOeAb",
   "PBDbOeBbPBDbOeCbPBDbOeDbPBDbOeEbPBDbOeFbPBDbOeGbPBDbOeHbPBDbOeIbPBDbOeJbPBDbOeKbPBDbOeLbPBDbOe",
   "MbPBDbOeNbPBDbOeObPBDbOePbPBDbOeQbPBDbOeRbPBDbOeSbPcaPEmyLmyLmyLmyLeADcGcGcJBCcJcJBDcJcJcJciNC",
   "bGskNBCbGskODCsjWsjYdSCslNsmIjXDbOglKbPBDbOglMbPBDbOglNbPBDbOglPbPBDbOglQbPBDbOglRbPBDbOglTbPB",
   "DbOglVbPBDbOglWbPBDbOglYbPBDbOglZbPBDbOgmAbPBDbOgmBbPBDbOgmCbPBDbOcndObPBDbOcowUbPBDbOcptKbPBD",
   "bOcrmQbPBDbOcsjGbPBDbOctfWbPBDbOcuzCbPBDbOcwsIbPBDbOcxoYbPBDbOcziEbPBDbOdaeUbPBDbOdbbKbPBDbOdb",
   "yAbPBDbOdcuQbPBDbOcycYbPBEbOcxaYcxtKbPBEbOcxaYddiQbPCDbObdoAbPBDbObdtKbPBDbObdoJbPBDbObgxFbPBD",
   "bObdtSbPBDbObevTbPBDbObdoDbPBDbObevRbPBDbObdrPbPBDbObfnTbPBDbObnaMbPBDbObqoXbPBDbObozKbPBDbObn",
   "bSbPBDbOcdfTbPBDbObgzVbPBDbObmpHbPBDbObnlQbPBDbObnaNbPBDbObtxUbPBDbObfvPbPBDbObrjDbPBDbOcbgRbP",
   "BDbObtyZbPBDbObfiIbPBDbObdwTbPBDbObfzWbPBDbObipYbPBDbObtaPbPBDbObdxXbPBDbOcbiDbPBDbObfoMbPBDbO",
   "btzPbPBDbObdyNbPBDbObxfEbPBDbObxfNbPNDeIeMdXBCbYbXBCbYbYBCbYbZBCbYcABCbYcBBCbYcCBCbYcDBCbYcEBC",
   "bYcFBCbZbWBCbZbXBCbZbYBCbZbZBCbZcABCbZcBbDCcziUcnmEBCcycYcxmUcACbZcCBCbZcDBCbZcEBCbZcFBCcAbWBC",
   "cAbXBCcAbYBCcAbZBCcAcABCcAcBBCcAcCBCcAcDBCcAcEBCcAcFBCcBbWBCbXbnaMBCbYbnaMBCbZbnaMBCcAbnaMBCcB",
   "bnaMBCcCbnaMBCcDbnaMBCcEbnaMBCcFbnaMBDbXbWbnaMBDbXbXbnaMBDbXbYbnaMBCeAdZBDdXeKdZBCdXeOBDeEeMdW",
   "bWCbdwUbgaMBEskWsmRsoIsmIBEskWsnRsmVskVBEskWsnZsnAskWBDskWsoIsnRBEskYsmLsnZslKBDskYsnZsmBBDslA",
   "slDsnZBFslCslTslJsoIsmJBEslCsoIslFsoIBDslEsnZslTBDslEsoIsnGBDslFskYsnQBEslFsnPsmDsmIBEslFsnTsn",
   "QsoIBDslGsnTsnZBDslGsnZsnEBCslIslGBDslIsmLsoIBEslHsnLsnQsoIBEslIsnRsmAsoIBCslHsnTBFslHsnTslKsn",
   "PsnGBGslHsnTsnHsoIsmIsnRBFslHsnTsnVsmDsmIBDslKsnPsnGBFslKsnPsnGsmIsnZBFslJsnRslWskYsnTBEslJsnT",
   "soIsmNBDslLsoIslTBDslNsnRsmKBDslNsoIsnDBEslPskYslJsnRBFslPsnZsmBsoIsnGBEslRsnQsnZslKBDslVsnZsm",
   "BBDslVsnZsmIBDsmAsoIslTBCsmHslRBCsmJsnRBCsmIsnZBCsmKsmOBDsmOsmDsmIBDsmPskYsmEBFsmRsoIslVsnZsmI",
   "BDsmRsoIsmEBEsmQsoIsnSsnRBFsmUskWslTsmIsnRBDsmUslJsnRBCsmUslNBCsmTsnRBFsmVskVsnPsmDsmJBEsmVskX",
   "soIsmIBFsmWsmDslRslBsnRBDsmVsnPsnZBFsmYslJslZsoIsnRBCsnAslXBDsnAsmLsmSBDsmYsnRsmEBDsnAsnZslTBD",
   "snAsoIslSBDsmZsoIslZBEsnDskYsnZsmIBDsnCsnRsmIBCsnBsnZBDsnDsnZsmJBDsnBsoIsnRBDsnBsoIsnZBEsnEskY",
   "slJsnTBDsnEskYsnRBDsnEsmDsmPBDsnEsnRslJBFsnEsnZslRsnNsnZBEsnFslJsnTsnZBCsnFsnQBFsnFsnQsmQsoIsn",
   "RBCsnHslGBEsnHslGsmIsnZBEsnHsoIsmIsnRBDsnKsoIsmJBDsnKsoIsnRBDsnMskWsnZBEsnQsmDsmIsnRBCsnQsnPBD",
   "snRsmUsoIBEsnRsoIsmWsnRBCsnSsnGBFsnSsnZsmIslMsnZBDsnVsmDsmIBCbWbqrXBCbXbqrXBCbYbqrXBCbZbqrXBCc",
   "AbqrXBCcBbqrXBCcCbqrXBCcDbqrXBCcEbqrXBCcFbqrXBDbXbWbqrXBDbXbXbqrXBDbXbYbqrXBDbXbZbqrXBDbXcAbqr",
   "XBDbXcBbqrXBDbXcCbqrXBDbXcDbqrXBDbXcEbqrXBDbXcFbqrXBDbYbWbqrXBDbYbXbqrXBDbYbYbqrXBDbYbZbqrXBDb",
   "YcAbqrXBDeAeIdTBCdWdTBCdTeNBDdUdTeKBCeHeOBCeIdVBCdWeFBDdWeFbYBDdWeFbZBCeBeNBCbjtZbldOBCbmsBbga",
   "MBCbhtVborJBCbmqWbpePBEbnlQbjzZbdyWbtxUBCeIdTBCeGdTBCbkUdTBCeFdTBCeDdTBCeDdUBCeFdUBCdZdUBDdVdT",
   "eEBEeDdVdTeEBCeIdYBCeGdYBCbkUdYBCbkUdZBCeFdZBCeDdZBCeAeSBDeDeAeSBDeFeAeSBDdZeAeSBDeMeAeSBCbkUe",
   "EBCeFeEBCdWeEBCeDeEBCdYeFBCeGeFBCbkUeFBCeFeFBCdVeFBCeDeFBDeFeFbYBDdVeFbYBCeFbYBDeDeFbYBDeFeFbZ",
   "BDdVeFbZBCeFbZBDeDeFbZBDeFmxPeLBEeFmxPeLbYBCeIdTBDeDeIdTBDeFeIdTBDdZeIdTBDeKdTdWBFeKdTdWmxPeLB",
   "GeKdTdWmxPeLbYBCeIeLBCeGeLBCbkUeLBCeFeLBCeIeOBCeGeOBCbkUeOBCeFeOBCeDeOBCeFeOBCeIePBCeGePBCbkUe",
   "PBCeFePBCeDePBCeFePBCeDblHBCeFblHCCdUeJBCdVdVBCdVdWBEdVmxPeDdZCCdWdUBCdZeRBCeAdTBCeAeIBCeBeGBC",
   "eDeDBCeDeFBCeDeMBCeEeFBCeEeGBDeEeHdZBCeEeQBCeFdUBDeFeBeEBDeFeHeEBCeIeACDeIeIeFBCeIeKBCeLeKBCeL",
   "eOBCePdUBDeOmxPeFBDdTmxPeFBCbXbmpHBCbYbmpHBCbZbmpHBCcAbmpHBCcBbmpHBCcCbmpHBCcDbmpHBCcEbmpHBCcF",
   "bmpHBDbXbWbmpHBDbXbXbmpHBDbXbYbmpHBDbXbZbmpHBDbXcAbmpHBDbXcBbmpHBDbXcCbmpHBDbXcDbmpHBDbXcEbmpH",
   "BDbXcFbmpHBDbYbWbmpHBDbYbXbmpHBDbYbYbmpHBDbYbZbmpHBDbYcAbmpHBDbYcBbmpHBDbYcCbmpHBDbYcDbmpHBDbY",
   "cEbmpHBDbYcFbmpHBDbZbWbmpHBDbZbXbmpHBDdZdTeEcxjLCdYdYBCdYeBBCdYeEBDdYdYeBBDdYdYeEBCeLeMBCeLeMN",
   "CcbScbUBCcbScbDBCcbScbJBCccCcbUBCcbScbLcECcfGcfSfMCcoTclONCciOciPBCciOciPBCciOcpHBCciOcpHBCciO",
   "cjWBCciOcjWBCciOcoTBCciOcoTBCciOcoSBCciOcoSBCciOcoUBCciOcoUBCciOcpCBCciOcpCBCciOcpCBCciOcjXBCc",
   "iOcjXBCciOcjXFCciOciUBCciOciVBCciOcjTBCciOcjXBCciOcjYBCciQciUBCciQciVBCciQciWBCciQcjTBCciQcjXB",
   "CciQcjYBCciSciUBCciSciVBCciSciWBCciScjTBCciScjXBCciScjYBCciTciUBCciTcjTBCciTcjXBCciTcjYBCciUci",
   "VBCciUcjTBCciVciUBCciVcjTBCciWciUBCciWciVBCciWcjTBCcjBciUBCcjBciVBCcjBciWBCcjBcjTBCcjDciVBCcjD",
   "cjTBCcjEciUBCcjEciVBCcjEciWBCcjEcjTBCcjFciVBCcjFcjTBCcjGcjTBCcjHciUBCcjHcjTBCcjIciUBCcjIcjTBCc",
   "jPciUBCcjPciVBCcjPciWBCcjPcjTBCcjPcjXBCcjPcjYBCcjQciVBCcjQcjTBCcjQcjXBCcjQcjYBCcjRciPBCcjRciUB",
   "CcjRciVBCcjRciWBCcjRcjSBCcjRcjTBCcjRcjXBCcjRcjYBCcjSciUBCcjSciVBCcjSciWBCcjScjTBCcjScjXBCcjScj",
   "YBCcjTciUBCcjTciVBCcjTciWBCcjTcjTBCcjTcjXBCcjTcjYBCcjUciUBCcjUciVBCcjUciWBCcjUcjTBCcjUcjXBCcjU",
   "cjYBCcjVciUBCcjVcjTBCcjVcjXBCcjVcjYBCcjYciUBCcjYciVBCcjYciWBCcjYcjTBCcjYcjXBCcjYcjYBCciYclKBCc",
   "iZclKBCcjXclKBDbGckAckFBDbGckBckFBDbGckCckFBDbGckDckFBDbGckEckFBDbGckFclKBCciOciZBCciOcjABCciO",
   "cjTBCciOcjUBCciOcjXBCciOcjYBCciQciZBCciQcjABCciQcjTBCciQcjUBCciQcjXBCciQcjYBCciSciZBCciScjABCc",
   "iScjTBCciScjUBCciScjXBCciScjYBCciTciZBCciTcjABCciTcjTBCciTcjUBCciTcjXBCciTcjYBCcjPcjXBCcjPcjYB",
   "CcjQcjXBCcjQcjYBCcjRciPBCcjRcjSBCcjRcjTBCcjRcjXBCcjRcjYBCcjScjTBCcjScjXBCcjScjYBCcjTciPBCcjTcj",
   "TBCcjUciZBCcjUcjABCcjUcjTBCcjUcjUBCcjUcjXBCcjUcjYBCcjXclKBCcjYciZBCcjYcjABCcjYcjTBCcjYcjUBCcjY",
   "cjXBCcjYcjYBCciOciUBCciOciVBCciOciWBCciOcjTBCciOcjVBCciQciUBCciQciVBCciQciWBCciQcjTBCciQcjVBCc",
   "iSciUBCciSciVBCciSciWBCciScjTBCciScjVBCciTcjTBCciUciVBCciUcjTBCciVciUBCciVcjTBCciWciUBCciWcjTB",
   "CcjBciUBCcjBciVBCcjBciWBCcjBcjTBCcjDciVBCcjDciWBCcjDcjTBCcjEciUBCcjEciVBCcjEciWBCcjEcjTBCcjFci",
   "VBCcjGcjTBCcjHciUBCcjHcjTBCcjIciUBCcjIcjTBCcjPciUBCcjPciVBCcjPciWBCcjPcjTBCcjQciVBCcjQcjTBCcjR",
   "ciUBCcjRciVBCcjRciWBCcjRcjSBCcjRcjTBCcjSciUBCcjSciVBCcjSciWBCcjScjTBCcjScjVBCcjTciUBCcjTciVBCc",
   "jTciWBCcjTcjTBCcjUciUBCcjUciVBCcjUciWBCcjUcjTBCcjUcjVBCcjVciUBCcjVcjTBCcjVclKBCcjYciUBCcjYciVB",
   "CcjYciWBCcjYcjTBCcjYcjVBCciOcjTBCciOcjVBCciQcjTBCciQcjVBCciScjTBCciScjVBCciTcjTBCciTcjVBCcjBcj",
   "TBCcjBcjVBCcjCcjTBCcjCcjVBCcjRcjSBCcjRcjTBCcjScjTBCcjUcjTBCcjUcjVBCcjYcjTBCcjYcjVBDcjOckCckFBD",
   "cjOckDckFBDcjOckEckFBCcjFcjXBCcjFcjYBCcjHcjXBCcjHcjYBCcjIcjXBCcjIcjYBCcjBcjXBCcjBcjYBCcjCcjXBC",
   "cjCcjYBCciVcjXBCciVcjYBCciUcjXBCciUcjYBCciWcjXBCciWcjYBCcjDcjXBCcjDcjYBCcjEcjXBCcjEcjYBCcjCciU",
   "BCcjCciVBCcjCciWBCcjCcjTBCcjCciZBCcjBciZBCcjDciZBCcjEciZBCcjFcjXBCcjFcjYBCcjHcjXBCcjHcjYBCcjIc",
   "jXBCcjIcjYBCcjBcjXBCcjBcjYBCcjCcjXBCcjCcjYBCciVcjXBCciVcjYBCciUcjXBCciUcjYBCciWcjXBCciWcjYBCcj",
   "DcjXBCcjDcjYBCcjEcjXBCcjEcjYBCcjCciUBCcjCciVBCcjCciWBCcjCcjTBCcjCciZBCcjBciZBCcjDciZBCcjEciZBC",
   "cjCciUBCcjCciVBCcjCciWBCcjCcjTBCcjBcjVBCcjCcjVBCcjFcjTBCcjBciUBCcjBciVBCcjBciWBCcjCciUBCcjCciV",
   "BCcjCciWBCcjFcjTBCcjGcjTBCciPcjZBCciPcjZTDciSciUcjTBDciSciVciUBDciSciVciUBDciSciVcjTBDciSciWcj",
   "TBDciScjTciUBDciScjTciVBDciScjTciWBDciUcjTciVBDciUcjTciVBDciVcjTcjYBDciVcjTcjXBDcjBciVciUBDcjB",
   "ciUciVBDcjBciUcjXBDcjBcjTciVBDcjBcjTciVBDcjBcjTciUBDcjBcjTcjTBDcjBcjTcjTBDcjDciVciVBDcjDciVciV",
   "BDcjDcjTcjTBDcjCciVcjTBDcjCciVcjTBDcjCciUcjYBDcjCcjTciWBDcjCcjTciWBDcjCcjTcjTBDcjCcjTcjTBDcjEc",
   "iVcjXBDcjEciWcjTBDcjEciWcjTBDcjFcjTciVBDcjFcjTciVBDcjFcjTcjTBDcjFcjTcjYBDcjHciUcjTBDcjHcjTcjTB",
   "DcjHcjTcjTBDcjHcjTcjXBDcjIcjTcjTBDcjIcjTcjYBDcjIcjTcjXBDcjPciWcjTBDcjPciWcjTBDcjQcjTciVBDcjQcj",
   "TcjTBDcjSciVcjTBDcjSciVcjYBDcjSciVcjXBDcjSciUciUBDcjSciUciUBDcjSciWcjTBDcjSciWcjTBDcjScjTciVBD",
   "cjScjTciVBDcjTciVciUBDcjTciVcjTBDcjTciVcjYBDcjTciUciVBDcjTciUcjTBDcjTciWciUBDcjTciWcjTDDcjTciU",
   "ciWBDcjVcjTciUBDcjVcjTcjTBDcjUciVcjTBDcjUciVcjXBDcjUciUcjTBDcjUciUcjTBDcjUciUcjXBDcjUcjTcjYBDc",
   "jUcjTcjXBDcjYcjTcjTBDcjYcjTcjTBDciQciWcjYBDciSciUcjYBDciSciUcjXBDciSciWcjYBDciSciWcjXBDciScjTc",
   "jYBDciScjTcjXBDciUcjTcjYBDciUciVcjXBDciUcjTcjXBDcjBciWcjXBDcjDciVcjYBDcjCciVcjYBDcjEciVcjYBDcj",
   "SciUcjYBDcjScjTcjYBDcjYciVcjYBDcjYciUcjYBDcjYcjTcjYBDcjTcjTcjYBDcjQcjTcjYBDcjUciVcjYBDcjQcjTci",
   "VBDcjSciVcjTBDcjHcjTcjYBDcjRcjTcjYBDcjUciUciVBDcjTciWcjYBDcjSciUcjTBDcjRcjTcjTBDcjSciUcjTBDcjU",
   "ciUciVBDciUciVcjYBDciVciUcjYBDcjTciUcjYBDcjPcjTcjYBDciQciVcjYBDcjRcjTcjTBDcjHciUcjTBDcjDcjTcjT",
   "BDcjBciWcjYBDcjUciUcjYbPDcjDcjScpEBDcjQcjScpEBEciPcjScjScjVBEciPcjRciQciZBEcjTciVcjTciXBEcjDcj",
   "ScjHcjTBEciZcjBcjWcjSBEcjHcjScjYcjVBEcjWcjBcjScjTBDcjDcjScjXBScjDcjScjXbGciPcjScjScjVbGcjHcjSc",
   "jYcjVbGcjWcjBcjScjTBIciUcjSbGciUcjSciPcjScjVBEciZcoYciPcjScZCbGbdTBCbGbdTBCbGbdTBCbGbdTbKCbGcj",
   "ZBCcjOcjZBCbGckACCbGckBCCbGckCBCcjOckCBCbGckDBCcjOckDBCbGckEBCcjOckEBCbGckFBCcjOckFBCbGckGBCcj",
   "OckGeOCcjSciKBCcjSciKBCcjSciLBCcjSciLBCcjSciNBCcjSciNBCcjSciPBCcjSciPiXCbGbdSdniCCbWbSBCbXbSBC",
   "bYbSBCbZbSBCcAbSBCcBbSBCcCbSBCcDbSBCcEbSBCcFbSGDbOdTbPBDbOdUbPBDbOdVbPBDbOdWbPBDbOdXbPBDbOdYbP",
   "BDbOdZbPBDbOeAbPBDbOeBbPBDbOeCbPBDbOeDbPBDbOeEbPBDbOeFbPBDbOeGbPBDbOeHbPBDbOeIbPBDbOeJbPBDbOeK",
   "bPBDbOeLbPBDbOeMbPBDbOeNbPBDbOeObPBDbOePbPBDbOeQbPBDbOeRbPBDbOeSbPBDsfKeLsfLDCdVdWBCePeSbCCeAe",
   "OBCeFeOBCeLdWBCeLeLBDeIeIeOBCePdVbBCeFdVBCeFdWBCeFeKbKCdWeCeICsjJshNBCslNslNcLDsfKbnbWsfLBDsfK",
   "bdoJsfLBDsfKbdtKsfLBDsfKbirHsfLBDsfKbqrXsfLBDsfKblgDsfLBDsfKbtaDsfLBDsfKbfjXsfLBDsfKbmjVsfL"])

/-- What a code point contributes to a domain name, if it may be written at all. -/
def domainCharacter? (n : Nat) : Option (List Nat) :=
  if !domainCharacters.holds n then none
  else if domainIgnored.holds n then some []
  else
    match domainSequences.find? (·.1 == n) with
    | some (_, ms) => some ms
    | none => some [(domainShifts.findSome? (·.moved? n)).getD (fold n)]

/-- The code points of a domain name as it was written. -/
def domainName? (ns : List Nat) : Option (List Nat) :=
  (ns.mapM domainCharacter?).map fun parts => normalize parts.flatten

theorem domainName_nil : domainName? [] = some [] := rfl

end Schemata.Uri
