import Schemata.Unicode.Table

/-!
# Binary properties

The sets of characters that have a property, as of version 17 of the Unicode standard.
-/
namespace Schemata.Unicode
namespace BinaryProperty

/-- The property ASCII Hex Digit. -/
def asciiHexDigit : CodeSet := .ofLines
  ["bWKHGbAG"]

/-- The property Alphabetic. -/
def alphabetic : CodeSet := .ofLines
  ["cNbAGbAbVBKBEBFXBbFBrQEMOFHBBBdIBbDSBCCEBBGBBDBBBUBdFBfJIgKBbMCBGbPbNOBBBCBCBBIbBEEbDLFcEBHOdY",
   "BIEIEDKDCBQbWNdXYbHJCEBFYCTTZHLFYBHHBIbQKMDHGcYBQBDEPNTBICCCWBHBBDEDICCCCBBIBECBFMCKBEDBGECCWB",
   "HBCBCBCEFECCCEBHEBBRGLDBJBDBWBHBCBFDJBDBCDBPEVEEDBICCCWBHBCBFDICCCCJCECBFNBQCBGDDBEDCBBBCDCDDD",
   "MEFDDBDDBGBbONBDBXBQDIBDBDICBDBCCEbCEBIBDBXBKBFDIBDBDICFDBENDMNBDBbPCIBDBDBBFEHFWGBDBSDYBJBBCH",
   "IGBBBISCNcGFHGBbZCBBBFBYBBBTBDCFBBGBOEbGBcLIBbKETEQBbKcPcDBBCFQcMKECbMBBFBCbRBmVBECHBBBECbPBEC",
   "bHBECHBBBECPBcFBECcPbLQQdICGDxWCRBbAFcXDLHULVMUMNBDBCMcACTOBEBcPdLHbRFcSKbFBMEJXbECFLbSEbAcCbC",
   "EcLCUbYBXCLDbXcABPBIbZbQCEKbSBLOcDWDKbKCLFbRCDbPEBGBCDBFhKTbILkSCGCbMCGCIBBBBBBBbFCcBBHBBDDBHD",
   "ECGENFDBHeMBNBQNdXBEBCKBBDFGBBBBBBEBLCEFFEBRbPbfHcAcrUiVGEDCMbMBBFBCcEHBQXJHBHBHBHBHBHBHBHBbGb",
   "VBsBDZJHFCFEdIGDBdMBEFbRBdQRbGbWQtSjtOcMbguFcPbUCkJDQKCUbVFIDeJbNJCdZCdEUVBbHYcAMcQBBbSGDBBDKb",
   "HFbJNbDDbZBMPBQQKFBcDJOSXDcRBBBBYDCQCELGCGCGJHBHBbRBOGeTVqnSMXEbXmnCoCCeCbMHMFFMBNBFBBBCBCBeEb",
   "HnZScMCcCbOMeMFBfFbKbAGbALdLDGCGCGCDbJMBbABTBCBPCObIeTcRcBkHbDDbXbVbGNbEFbRFbECbKEIBFbQgCSbKEb",
   "KEbOIcAMLBPBHBCBLBPBHBCDcAMlZJWKIYGBbQBJcRGCBBbSBCDBCXKXJbFcNTBCKWKbAGbAbMcEGCcMEBCFIBDBbDbQbD",
   "DbDbJIBbCbBcCKWKTNSeGcVcDbZNbZNbObIbCDBFXjQbQBCDCQGbYDDbDKBIWbQSbUVbBXJcSbRFKcFJBNZXbZREIbJDBJ",
   "cMBEJCKBBBbJSBbICBGEcKHBBBEBPBKHcFXEBICCCWBHBCBFDICCCCDBGBFHbCKBBCBBbMBKBBCBBEBCDBBBbScOBDBEUD",
   "bEcOCCBBhCcCCHZGbIcLBBDBcHcCCBcTbBCOVHhDcFdZcMbFICBCIBCBbEBCCCCEdPICbUCGBBBCbBbZCKRcUFBScVdZId",
   "KbHbFJBbTBHBBbXbECWBOcVHBCBbSDBBCBDBBCCYGBCBbLBCBEBBXbSkAXJRBbPDDeHBdBbjMdYeHRhOdxKdTPbpGRGZfx",
   "RFwLkdDbVcpDvXHbFRdBRbESbWQEbFVFTqQbTiDcMbGZCZbScXEcFHRcMCBBMHJkxYbPbGdTeLmwREBHBCBlFPBbDDCBOE",
   "IpGdkUeDFNDJHKEBiwFdHBcTBCCBCCCEBMBBBHBcNBECIBHBbCBEBFBBDHBnCCZBZBbFBZBbFBZBbFBZBbFBZBIcsYbFGG",
   "iFHBRCHBCBFFcKbHBeIbTKHQBmJbESbSsQbCiUbECBhZbFBWICiQHBEBCBPBhPcHcQDBDBbuIEBbBBCBBCBBKBEBBBBGBE",
   "BBBBBBDBCBBCBBBBBBBBBBCBBCEBHBEBEBBBKBRFDBFBRyEbAGbAGbAfmKclfCbGgmOCioCClbLPxYdqWuWcfYhhZFmoO"]

/-- The property Bidi Control. -/
def bidiControl : CodeSet := .ofLines
  ["ciEBjvLCbAFcDE"]

/-- The property Bidi Mirrored. -/
def bidiMirrored : CodeSet := .ofLines
  ["bOCSBBBbCBBBbDBBBbTBPBfmSEcuNCdqQCKCcCCOCgVBhKEDGDBDCDEBEBBBBEJFBBSFEJCBBBIBbGCEFBJCCTFCJFCCEY",
   "CQIEUCHCbpTOcWBCEBCBDFEFDDOpNWCGBOIBHGDBEFBCCFEBBDCCKGCCMTBECBBBCBBEFCGDYCLCEEBCCCEbRCIBbOFBBB",
   "DFFDEBDFBBjWBtVEDCBCOCCKbRIqLKCIdacRGFCgGCSBBBbCBBBbDBBBBCBCddpNBcFBcFBcFBcFB"]

/-- The property Case Ignorable. -/
def caseIgnorable : CodeSet := .ofLines
  ["bNBGBLBbJBBBcTBEBBBEBCCtJhKECEBJCBBjRHhZBFBbXbTBBBCBCBBbSBLGKLBBbJBKVQBdXIBKBEbHBBBbEbBdNLcGLE",
   "BCBYYbRDbSBHCFJbPcGcDBBBEIEBDHKCNBPBcGBEEIBUCbABCCcFBECECCDDBbECDBLCcFBEFBCEBUCWGBBcGBCBBEIBHC",
   "LCbEBcJBMBbYBDBcDBBDFDBEHCLCbDBcGBCBGBFCUCbCCcFCEEIBUCbDBcUBHDBBdMBCHLJdUBCJJBBHcVCbBBBBBBcDOB",
   "FBCFLBbKJBdYEBGBCCCZCEDQENBCCGBPBdQBxKDbkKDbDCbECbECcMCBHIBCLDBFBbTFbZBcNCbIBeODECJBGDiLCCBcGB",
   "BHBBBBCIGKCBbNBIbUCMUEbWBBFBBFBbOJMCbGECCBDcEBBCDBBDcGICCcMGdEDBNBHEBGBDCbYcLNBbIdXrDBBDLDNDND",
   "NCMFICKBCBCFbXFBKBBNBQNbZbHejRCeJDeVBPBdSbGbVBsBBbKEDFFBdPGdPDbqbUBbwCGkKBdUEBKBBbCEdCCObIdABX",
   "DdYEDCIBDBEBZCFBfVCbASNBbMIZLbUDbWBCECCRBVCcOGCCCCMBIBbJBLBbZBBDCCFCBBbBBOCFCBBdWFJDeRBCBEBbdz",
   "SBfRRwBQDBMQbIBCBgNBHBGBLBbJBBBbVBbTCcPBVDtTBiSBfTFbnPGBbQBJwKDBCFEbODEBgJCwBEbMBbAFBBmDCYBcAG",
   "cSLbXEeTBcCPbPBCCKDbXECCCBEBKBbYDbKFBIcKBMCcAJKECBdRDCBBCGBCBgBBDIVCcFCDBbLHDFcSGNBBBBBOCdHICD",
   "BBXBdGGBBECBCjEEGCBCbBCdHICBBCeCBBBCGBBdXBBBCEBFjZJBCjWCBBEBfOECCEBbGKbOGCEIBJGCDbUNBChQBBDBBh",
   "THBGBBdEWCHBCBCeSGDBBCBHBBcUCDBBBcNBkVCLCcAFFBBBXBhxDRGPqyYMDDdsAFcHHJEtODbOCsOBcLRcMCBCNCygAE",
   "BHBCeuGCBEgyUbUCXuYDJQCHbEEfSDcyDcDEbYIBOBWFBPcaIHBRCHBCBFFcKbHBgEOoEBcJEtNFjUCjJBCBHCFBJBrWHe",
   "FIebFFbsxxPBbEdSeYjG"]

/-- The property Cased. -/
def cased : CodeSet := .ofLines
  ["cNbAGbAbVBKBEBFXBbFBhNBEEiACbJHCbEFdSBbQECCCEBBGBBDBBBUBdFBfJIgKBbMJbPefFbMBBFBCbRBEzWdICGdfUL",
   "FbRCDcMhKcMkSCGCbMCGCIBBBBBBBbFCcBBHBBDDBHDECGENFDBHeMBNBQNdXBEBCKBBDFGBBBBBBEBGEBCEFFEBRbGDCb",
   "fLcAcrUiVGEDCMbMBBFBbtwCbUSbEfCdYDEBcZUGBDbfPbRBOGdCbeaIHMFbnTbAGbAbtTdCdSbKEbKeMLBPBHBCBLBPBH",
   "BCrJBCDBbQBJbuZbZNbZdPWKWefIcMbgiQcMbGZCZbmiEdHBcTBCCBCCCEBMBBBHBcNBECIBHBbCBEBFBBDHBnCCZBZBbF",
   "BZBbFBZBbFBZBbFBZBIcsYKBUGGkBcKdgKcQdaAbAGbAGbA"]

/-- The property Changes When Casefolded. -/
def changesWhenCasefolded : CodeSet := .ofLines
  ["cNbAdMBKXBIbGBBBBBBBBBBBBBBBBBBBBBBBBBBBBBBBBBBBBBBBBBBBBBBBBBBBBBBBCBBBBBBBBBBBBBBBBCBBBBBBBB",
   "BBBBBBBBBBBBBBBBBBBBBBBBBBBBBBBBBBBBBCBBBBBBBCBBBCBDCEBCBDDCBCBBBBBCBBCBBCBDBBBCDBHCBCBCBBBBBB",
   "BBBBBBBBBBCBBBBBBBBBBBBBBBBBCCBBBDBBBBBBBBBBBBBBBBBBBBBBBBBBBBBBBBBBBBBBBBBBBBBBBBBBBBBBBBBBHC",
   "BCCBBEBBBBBBBBjMBbQBBBDBIBGBBDBBBCBRBJWBMDDCBBBBBBBBBBBBBBBBBBBBBBBBBCCCBBBCCbZbWBBBBBBBBBBBBB",
   "BBBBBBBBBBBBBBBBBBBBJBBBBBBBBBBBBBBBBBBBBBBBBBBBBBBBBBBBBBBBBBBBBBBBBBBBBBBCBBBBBBBBBBBBCBBBBB",
   "BBBBBBBBBBBBBBBBBBBBBBBBBBBBBBBBBBBBBBBBBBBBBBBBBBBBBBBBBBBBBBBBBBBBBBBBBBBBBBBBBBBBBBBBBBCbMb",
   "WBefGbMBBFBbfEGdfUKGbRCDmIBBBBBBBBBBBBBBBBBBBBBBBBBBBBBBBBBBBBBBBBBBBBBBBBBBBBBBBBBBBBBBBBBBBB",
   "BBBBBBBBBBBBBBBBBBBBBBBBBBBBBBBBBBBBBBBBBBBBBBBBBBBBBBBBBBBBBBBBBBBBBBBBBBBBBBBBBFCCBBBBBBBBBB",
   "BBBBBBBBBBBBBBBBBBBBBBBBBBBBBBBBBBBBBBBBBBBBBBBBBBBBBBBBBBBBBBBBBBBBBBBBBBBBBBBBBBBBBBBJIIGKII",
   "IIGLBBBBBBBIIQbWCDCGFDCGLEMFFDCGlLBDCGBbTQTBbfMbAcsUbWbWBBDCBBBBBBEBBCBIDBBBBBBBBBBBBBBBBBBBBB",
   "BBBBBBBBBBBBBBBBBBBBBBBBBBBBBBBBBBBBBBBBBBBBBBBBBBBBBBBBBBBBBBBBBBBBBBBBBBBBBIBBBEBbtyJBBBBBBB",
   "BBBBBBBBBBBBBBBBBBBBBBBBBBBBBBBBBBBBBBTBBBBBBBBBBBBBBBBBBBBBBBBBBBfFBBBBBBBBBBBBBDBBBBBBBBBBBB",
   "BBBBBBBBBBBBBBBBBBBBBBBBBBBBBBBBBBBBBBBBBBBBBBBBBKBBBBCBBBBBBBBEBBBCBBBDBBBBBBBBBBBBBBBBBBBBFB",
   "FBBBBBBBBBBBBBBBEBBBCBBBBBBBBBBBBBBBBYBbiGdCbeaIHMFbnTbAbuZbOfGbKgALBPBHBCcqCbZgBWegObGbgjWbGc",
   "MZbuhZbI"]

/-- The property Changes When Casemapped. -/
def changesWhenCasemapped : CodeSet := .ofLines
  ["cNbAGbAcGBKXBbFBcMBdGBbCCOCCBBEdPBSGbBBCBBBCDCBEBFCBBCCBHBCBBCDGFBKCgKBbQECCDDBBGBBDBBBUBbVDbH",
   "BFBfDIgKBbMKbNefGbMBBFBCbRCDzWdICGdfULFbRCDhDBDBQBeJgACBBeOCGCbMCGCIBBBBBBBbFCcBBHBBDDBHDECGEN",
   "FDBHlLBDCGBbBBRbGDCbfLcAcrUeJBCBCHdYHEDCMbMBBFBbtwCbUSbCfEOCcKJPDDCFBZBbTYCbhCBbCdCbeaIHMFbnTb",
   "AGbAbtTdCdSbKEbKeMLBPBHBCBLBPBHBCcoPbZNbZdPWKWefIcMbgiQcMbGZCZbugYcQ"]

/-- The property Changes When Lowercased. -/
def changesWhenLowercased : CodeSet := .ofLines
  ["cNbAdXXBHbHBBBBBBBBBBBBBBBBBBBBBBBBBBBBBBBBBBBBBBBBBBBBBBBBBBBBBBBCBBBBBBBBBBBBBBBCBBBBBBBBBBB",
   "BBBBBBBBBBBBBBBBBBBBBBBBBBBBBBBBBBBCBBBBDCBBBCBDCEBCBDDCBCBBBBBCBBCBBCBDBBBCDBHCBCBCBBBBBBBBBB",
   "BBBBBBCBBBBBBBBBBBBBBBBBCCBBBDBBBBBBBBBBBBBBBBBBBBBBBBBBBBBBBBBBBBBBBBBBBBBBBBBBBBBBBBBBHCBCCB",
   "BEBBBBBBBBlDBBBDBIBGBBDBBBCBRBJbJBIBBBBBBBBBBBBBBBBBBBBBBBFBCBBCCbZbWBBBBBBBBBBBBBBBBBBBBBBBBB",
   "BBBBBBBBJBBBBBBBBBBBBBBBBBBBBBBBBBBBBBBBBBBBBBBBBBBBBBBBBBBBBBBCBBBBBBBBBBBBCBBBBBBBBBBBBBBBBB",
   "BBBBBBBBBBBBBBBBBBBBBBBBBBBBBBBBBBBBBBBBBBBBBBBBBBBBBBBBBBBBBBBBBBBBBBBBBBBBBBCbMehDbMBBFBbbUd",
   "IdgLBGbRCDmIBBBBBBBBBBBBBBBBBBBBBBBBBBBBBBBBBBBBBBBBBBBBBBBBBBBBBBBBBBBBBBBBBBBBBBBBBBBBBBBBBB",
   "BBBBBBBBBBBBBBBBBBBBBBBBBBBBBBBBBBBBBBBBBBBBBBBBBBBBBBBBBBBBBBBBBBBJBBBBBBBBBBBBBBBBBBBBBBBBBB",
   "BBBBBBBBBBBBBBBBBBBBBBBBBBBBBBBBBBBBBBBBBBBBBBBBBBBBBBBBBBBBBBBBBBBBBBBJIIGKIIIIGLBBBBBBBIIYII",
   "IIIIFLFLEMFLFlLBDCGBbTQTBbfMbAcsUbWbWBBDCBBBBBBEBBCBIDBBBBBBBBBBBBBBBBBBBBBBBBBBBBBBBBBBBBBBBB",
   "BBBBBBBBBBBBBBBBBBBBBBBBBBBBBBBBBBBBBBBBBBBBBBBBBBBBBBBBBBIBBBEBbtyJBBBBBBBBBBBBBBBBBBBBBBBBBB",
   "BBBBBBBBBBBBBBBBBBBTBBBBBBBBBBBBBBBBBBBBBBBBBBBfFBBBBBBBBBBBBBDBBBBBBBBBBBBBBBBBBBBBBBBBBBBBBB",
   "BBBBBBBBBBBBBBBBBBBBBBBBBBBBBBKBBBBCBBBBBBBBEBBBCBBBDBBBBBBBBBBBBBBBBBBBBFBFBBBBBBBBBBBBBBBEBB",
   "BCBBBBBBBBBBBBBBBBYBbhaHbAbuZbOfGbKgALBPBHBCcqCbZgBWegObGbgjWbGcMZbuhZbI"]

/-- The property Changes When NFKC Casefolded. -/
def changesWhenNfkcCasefolded : CodeSet := .ofLines
  ["cNbAcRBHBBBCBBBCECDBDBXBIbGBBBBBBBBBBBBBBBBBBBBBBBBBBBBBBBBBBBBBBBBBBBBBBBBBBDBBCBBBBBBDBBBBBB",
   "BCBBBBBBBBBBBBBBBBBBBBBBBBBBBBBBBBBBBBBBBBBBBBBCBBBBBBBCBBBCBDCEBCBDDCBCBBBBBCBBCBBCBDBBBCDBHK",
   "BBBBBBBBBBBBBBCBBBBBBBBBBBBBBBBBCEBDBBBBBBBBBBBBBBBBBBBBBBBBBBBBBBBBBBBBBBBBBBBBBBBBBBBBBBBBBB",
   "HCBCCBBEBBBBBBBBdTJbFGCFdNCBDJBbGBBBBBBBDBDCEHBBBCBRBJWBMIBBBBBBBBBBBBBBBBBBBBBBBBBDBCBBBCCbZb",
   "WBBBBBBBBBBBBBBBBBBBBBBBBBBBBBBBBBJBBBBBBBBBBBBBBBBBBBBBBBBBBBBBBBBBBBBBBBBBBBBBBBBBBBBBBCBBBB",
   "BBBBBBBBCBBBBBBBBBBBBBBBBBBBBBBBBBBBBBBBBBBBBBBBBBBBBBBBBBBBBBBBBBBBBBBBBBBBBBBBBBBBBBBBBBBBBB",
   "BBBBBBBBBBCbMbWBfSBdKEbcHIeUCBBdFBCBbIDCBjTCbbXBeXBbOCbUBcCBJBEBEBEBMBJBBFHBRBJBEBEBEBMBiWbMBB",
   "FBbUBdUCzNGbkOCdHFbrSKGbRCDeEDBLBSBbCNBbIbLcMBBBBBBBBBBBBBBBBBBBBBBBBBBBBBBBBBBBBBBBBBBBBBBBBB",
   "BBBBBBBBBBBBBBBBBBBBBBBBBBBBBBBBBBBBBBBBBBBBBBBBBBBBBBBBBBBBBBBBBBBBBBBBBBBBBBBBBBBBBBBBBBBBBB",
   "BBBBBBFCCBBBBBBBBBBBBBBBBBBBBBBBBBBBBBBBBBBBBBBBBBBBBBBBBBBBBBBBBBBBBBBBBBBBBBBBBBBBBBBBBBBBBB",
   "BBBBBBBBBBBBJIIGKIIIIGLBBBBBBBIIBBBBBBBBBBBBBBCbWCDCOCJDBEEBDDBEICDCIBQBBFBMDDGDCBCEBBBIDNBHTC",
   "bBBNLBdJEBDBLBCCFCDBBBBBBBEBLBGEFGbWDBFBgGCBCjOClXfJbyNBdZDdXBlFbWbWBBDCBBBBBBEBBCBGFBBBBBBBBB",
   "BBBBBBBBBBBBBBBBBBBBBBBBBBBBBBBBBBBBBBBBBBBBBBBBBBBBBBBBBBBBBBBBBBBBBBBBBBBBBBBBBBBBBBBBBIBBBE",
   "BeUBlRBdFBMiGbQBcBBBDdSCCBdRBbXdQDOdSbFBbOIbVBoUbrgYBBBBBBBBBBBBBBBBBBBBBBBBBBBBBBBBBBBBBBBBBB",
   "BBBTBBBBBBBBBBBBBBBBBBBBBBBBBBBBCfCBBBBBBBBBBBBBDBBBBBBBBBBBBBBBBBBBBBBBBBBBBBBBBBBBBBBBBBBBBB",
   "BBBBBBBBBBBBBBBBBBIBBBBCBBBBBBBBEBBBCBBBDBBBBBBBBBBBBBBBBBBBBFBFBBBBBBBBBBBBBBBEBBBCBBBBBBBBBB",
   "BBBBBBUFCCbhIEJBGdCbdgQkKCBBBCKBBBBCCDcQCeCbMHMFFBBYBFBBBCBCBeEbHnZScMCcCbONDbAWVCMBTBEEDBBBfF",
   "CBBhIDGCGCGCDDHBHBJbnRbOfGbKgALBPBHBCsXFBbQBJbuZbZgBWegObGbgjWbGcMZbdnBEgdMbKbrGHOIcMGwDdHBcTB",
   "CCBCCCEBMBBBHBcNBECIBHBbCBEBFBBDHBnCClGCbYdcQcKdgKbIbvYEBbBBCBBCBBKBEBBBBGBEBBBBBBDBCBBCBBBBBB",
   "BBBBCBBCEBHBEBEBBBKBRFDBFBRwILFbFBbGbADbJBeHDNbSEJHCdqSKdrlMuWbpcqSgbO"]

/-- The property Changes When Titlecased. -/
def changesWhenTitlecased : CodeSet := .ofLines
  ["dTbAcGBbPYBIBBBBBBBBBBBBBBBBBBBBBBBBBBBBBBBBBBBBBBBBBBBBBBBBBBBBBBBBCBBBBBBBBBBBBBBCBBBBBBBBBB",
   "BBBBBBBBBBBBBBBBBBBBBBBBBBBBBBBBBBBBCBBBBDCBBBCBDBFBCBDDCBCBBBBBCBEBCBDBBBCBDBBBEBBCBCBBBBBBBB",
   "BBBBBBBBBCBBBBBBBBBBBBBBBBBDBBBBDBBBBBBBBBBBBBBBBBBBBBBBBBBBBBBBBBBBBBBBDBBBBBBBBBBBBBBBBBIBCC",
   "BBEBBBBBBBBGBCBBBCDCBEBFCBBCCBHBCBBCDGFBKCgKBbRBBBDBDDSBbBbJBCDDBBBBBBBBBBBBBBBBBBBBBBBFBBCBCB",
   "cAbWBBBBBBBBBBBBBBBBBBBBBBBBBBBBBBBBBBJBBBBBBBBBBBBBBBBBBBBBBBBBBBBBBBBBBBBBBBBBBBBBBBBBBBBBCB",
   "BBBBBBBBBBBCBBBBBBBBBBBBBBBBBBBBBBBBBBBBBBBBBBBBBBBBBBBBBBBBBBBBBBBBBBBBBBBBBBBBBBBBBBBBBBBBBB",
   "BBBBBBBBBBBBBBbXbNfmEGdfUJBBjEBDBQBeKBBBBBBBBBBBBBBBBBBBBBBBBBBBBBBBBBBBBBBBBBBBBBBBBBBBBBBBBB",
   "BBBBBBBBBBBBBBBBBBBBBBBBBBBBBBBBBBBBBBBBBBBBBBBBBBBBBBBBBBBBBBBBBBBBBBBBBBBBBBBBBBBBBBBBBBBHFB",
   "BBBBBBBBBBBBBBBBBBBBBBBBBBBBBBBBBBBBBBBBBBBBBBBBBBBBBBBBBBBBBBBBBBBBBBBBBBBBBBBBBBBBBBBBBBBBBJ",
   "IGKIIIIGKIIIIOCIIIIIIFBCGBDDBCIECCIIKDBCnEBbHQEBbgLbActQbWBBDCBBBBBBGBCBKBBBBBBBBBBBBBBBBBBBBB",
   "BBBBBBBBBBBBBBBBBBBBBBBBBBBBBBBBBBBBBBBBBBBBBBBBBBBBBBBBBBBBBBBBBBBBBBBBBBBBBBIBBBEBMbMBBFBbtw",
   "DBBBBBBBBBBBBBBBBBBBBBBBBBBBBBBBBBBBBBBBBBBBBBTBBBBBBBBBBBBBBBBBBBBBBBBBBBfFBBBBBBBBBBBBBDBBBB",
   "BBBBBBBBBBBBBBBBBBBBBBBBBBBBBBBBBBBBBBBBBBBBBBBBBBBBBBBBBKBBBCBBBBBBBBBEBEBBCCBBBBBBBBBBBBBBBB",
   "BBBLBBBBBBBBBBBBBBBEBBBCBBBBBBBBBBBBBBBbABbhCBbCdCbeaIHMFboZbAbvHbOfGbKfZLBPBHBCcrBbZeVWegObGb",
   "gjWbGcHZbuiGbI"]

/-- The property Changes When Uppercased. -/
def changesWhenUppercased : CodeSet := .ofLines
  ["dTbAcGBbPYBIBBBBBBBBBBBBBBBBBBBBBBBBBBBBBBBBBBBBBBBBBBBBBBBBBBBBBBBBCBBBBBBBBBBBBBBCBBBBBBBBBB",
   "BBBBBBBBBBBBBBBBBBBBBBBBBBBBBBBBBBBBCBBBBDCBBBCBDBFBCBDDCBCBBBBBCBEBCBDBBBCBDBBBFCBCBCBBBBBBBB",
   "BBBBBBBCBBBBBBBBBBBBBBBBBCBCBBDBBBBBBBBBBBBBBBBBBBBBBBBBBBBBBBBBBBBBBBDBBBBBBBBBBBBBBBBBIBCCBB",
   "EBBBBBBBBGBCBBBCDCBEBFCBBCCBHBCBBCDGFBKCgKBbRBBBDBDDSBbBbJBCDDBBBBBBBBBBBBBBBBBBBBBBBFBBCBCBcA",
   "bWBBBBBBBBBBBBBBBBBBBBBBBBBBBBBBBBBBJBBBBBBBBBBBBBBBBBBBBBBBBBBBBBBBBBBBBBBBBBBBBBBBBBBBBBCBBB",
   "BBBBBBBBBCBBBBBBBBBBBBBBBBBBBBBBBBBBBBBBBBBBBBBBBBBBBBBBBBBBBBBBBBBBBBBBBBBBBBBBBBBBBBBBBBBBBB",
   "BBBBBBBBBBBBbXbNehCbRCDbdGGdfUJBBjEBDBQBeKBBBBBBBBBBBBBBBBBBBBBBBBBBBBBBBBBBBBBBBBBBBBBBBBBBBB",
   "BBBBBBBBBBBBBBBBBBBBBBBBBBBBBBBBBBBBBBBBBBBBBBBBBBBBBBBBBBBBBBBBBBBBBBBBBBBBBBBBBBBBBBBBBBBBBB",
   "BBHFBBBBBBBBBBBBBBBBBBBBBBBBBBBBBBBBBBBBBBBBBBBBBBBBBBBBBBBBBBBBBBBBBBBBBBBBBBBBBBBBBBBBBBBBBB",
   "BBBBJIGKIIIIGKIIIIOCcBBCEBBBDDBCEBDECCIIKDBCEBmZBbHQEBbgLbActQbWBBDCBBBBBBGBCBKBBBBBBBBBBBBBBB",
   "BBBBBBBBBBBBBBBBBBBBBBBBBBBBBBBBBBBBBBBBBBBBBBBBBBBBBBBBBBBBBBBBBBBBBBBBBBBBBBBBBBBBIBBBEBMbMB",
   "BFBbtwDBBBBBBBBBBBBBBBBBBBBBBBBBBBBBBBBBBBBBBBBBBBBBTBBBBBBBBBBBBBBBBBBBBBBBBBBBfFBBBBBBBBBBBB",
   "BDBBBBBBBBBBBBBBBBBBBBBBBBBBBBBBBBBBBBBBBBBBBBBBBBBBBBBBBBBBBBBKBBBCBBBBBBBBBEBEBBCCBBBBBBBBBB",
   "BBBBBBBBBLBBBBBBBBBBBBBBBEBBBCBBBBBBBBBBBBBBBbABbhCBbCdCbeaIHMFboZbAbvHbOfGbKfZLBPBHBCcrBbZeVW",
   "egObGbgjWbGcHZbuiGbI"]

/-- The property Dash. -/
def dash : CodeSet := .ofLines
  ["bTBcaUBbZBfkJBbnPBdbDGcJBbNBPBpABeoIBCBbFCEBbCBrEBTBeHBczwACbLBKBgNBflOBmGB"]

/-- The property Default Ignorable Code Point. -/
def defaultIgnorableCodePoint : CodeSet := .ofLines
  ["gRBzXBbbOBegWCckHCdHFdaPFbAFbXQgkYBczmPQjFBgEBdBJctlNEhwXIbtkzLgbO"]

/-- The property Deprecated. -/
def deprecated : CodeSet := .ofLines
  ["mRBbyVBdkTBBBdcJCdiJGbaVCbzryKB"]

/-- The property Diacritic. -/
def diacritic : CodeSet := .ofLines
  ["dQBBBcTBGBEBCCtJgDBIFGRCEBJCjTFiBBcDbTBBBCBCBBfBIECfECECDDcPbBdNLcGLbICeWIbPKQbCcJBQBDEbCBcWBQ",
   "BeGBQBeGBQBbVDcIBQBHBePBeGBQBeGBQBeFCQBeUBeHBMGBBeDBNFcXCbBBBBBBECcODBCcKBeIBBCbOCEFZHBBKCbbDD",
   "bkMCbEBfSLJBnJDlGBUICBbWPCLDPCMcUBPBbMJcCCcGBLCcOCcMGdEZEBGBCDbYcLbWbKFMbLLrDBBDLDNDNDNCexKDmF",
   "BtMGeBEdRBbsmKBMCBBbCCdECObIdYDdYBGCMBbLBfVBbBScFEbKBdRBMBbKBfTDcNEbZBdWFJDeYCbdzSBbdPQkKBBBbV",
   "BbTCcPBbdKBbtNGBbQBJyNDEBgJCvZGbMBbAFpGBCDcSLbXEhKBbPBcUCeQCcKBcYBJDeACgWCdCCQBYHDFdLDBCNCdRBD",
   "BeTCjRCeWBeOCeLBkJCjYCEBgABdFBSBdDBqFBjYBBCdDBcNBnVCXBhyAPqzPBdsAFcHHvSCvARdCCygCEBHBCltHbUCXu",
   "YDDGIICHbEEfmWcKhMHoLBcJEbdMCbcIHeFDBD"]

/-- The property Emoji. -/
def emoji : CodeSet := .ofLines
  ["bJBGBFKeHBEBlyRBMBiIBWBdMGPCoDCMBgKBZLEDhRBiXCKBJBcGEBFJBCBCCCBEBCBBCCBDBDCIDFBBBFMLCCBBCBBSBC",
   "CSGBBBCDCFBCCECLCFCCBFCBBBCUCFGBECBEBCBCGBBCBBBBBGBDBGBKCPBCBEBBBEDBBLCbWDJBOBOBoICrVDTCbZBEBb",
   "vUBMBxDBBBgmrQBhUBgECMCOBCKcXbABCXBUBCJVCgSbICeICCBDCdFCDBkDBcLLGBYHCCIMBCECBECNCCBICJBFDMDIDC",
   "BBBEBGBDBGdIbWcSFICEDKDBBCDBCKiTMEBkXbVBKBhDeINDLDcFBBEQCMEK"]

/-- The property Emoji Component. -/
def emojiComponent : CodeSet := .ofLines
  ["bJBGBFKmbJBiFBdftRBdoiWbAtNFceAEbsvuQdS"]

/-- The property Emoji Modifier. -/
def emojiModifier : CodeSet := .ofLines
  ["hhiXF"]

/-- The property Emoji Modifier Base. -/
def emojiModifierBase : CodeSet := .ofLines
  ["olHBiLBQEgsjVBcIDCBCDeNCCLVTDBEDBDHBBBYBhTCEBVBECgSDDFdFBQDJBLBwDBCBIIGBJKCDcEBcJCBCBBRDBNiVDb",
   "QJ"]

/-- The property Emoji Presentation. -/
def emojiPresentation : CodeSet := .ofLines
  ["nhQChXEDBCBuBCVCbYMbRBTBNBICRCFCIBFBVBHCBBEBCBHBECbCBbJBBBEDBBcJDYBOBbhBCbZBEBgplEBhUBhIBCKcXb",
   "ABBYBUBCFBDVCgSbHMJBcSBWMbREFMRDBDcTBBBhFCcLNEBYSBbACNBdIdHbWcSGBDDCEDELCHJiTMEBkXbVBKBhDeINDL",
   "DcFBBEQCMEK"]

/-- The property Extended Pictographic. -/
def extendedPictographic : CodeSet := .ofLines
  ["gNBEBlyRBMBiIBWBdMGPCoDCMBgKBZLEDhRBiXCKBJBcGEBFJBCBCCCBEBCBBCCBDBDCIDFBBBFMLCCBBCBBSBCCSGBBBC",
   "DCFBCCECLCFCCBFCBBBCUCFGBECBEBCBCGBBCBBBBBGBDBGBKCPBCBEBBBEDBBLCbWDJBOBOBoICrVDTCbZBEBbvUBMBxD",
   "BBBgmrQBbNEdWMPCPBOCbLKeICMCOBCKTcEbBPKBUBCJBEJXGhGCeICCBDCdFCDBEFjUBcLLGBYHCCIMBCECBECNCCBICJ",
   "BFDMDIDCBBBEBGBDBGdIbWcSFICRDBBGCNiKbMMEcEIKGbOIbECMECOJbNMbVBKBhDdKIOfQjWbnI"]

/-- The property Extender. -/
def extender : CodeSet := .ofLines
  ["hBBuQCbhUBqZByGBfHBdLBbcYBeXBdnFBcEBxNBpIBcQBhkJBbRFdZCdPDbqbUBcgSBblABWBfHBeEBVCbfzVBdbKCcfBB",
   "bBBEBbvBBlHBeMCtEDbvJBbgABbdiECbtKCBBOCbqxKCbuFBbgUD"]

/-- The property Grapheme Base. -/
def graphemeBase : CodeSet := .ofLines
  ["bGdRbHNBwWeIICGEHBBBUBiQHgKBbMCbYCDbUBBBCBCBJbBEGRKLBBbUVQBdXIBGCCBEbGCBBbEbDdLLBObRJHDYEBJBDB",
   "HPBZFBBLFbGQbQcFcDBBBEIEBDHKCbDBCBICCCWBHBBDEDBBCGCCCBBNCBDEYFBBGECCWBHBCBCBCEDYEBBHKCDBBMBBJB",
   "DBWBHBCBFDEIBBCDBPCEMHBICBICCCWBHBCBFDBCBGCCCPCBDESLBBGDDBEDCBBBCDCDDDMFBBCDDBDDBVVGDBIBDBXBQD",
   "BDETDBCCCEKHKBLBDBXBKBFDCCBBCXDBCEKBDOLBDBbPCBBCFDBDBCEDBKEbACCBSDYBJBBCHJCGHHKCDMbWBCLIINbLCB",
   "BBFBYBBBKBCJBCFBBJKCEbGYCbBBBBBBOBbKSBFBCFbXIBGBNbLbTEBGBCCCZCEDQENBCCGBPBbOBBFBCoNBECHBBBECbP",
   "BECbHBECHBBBECPBcFBECcPFbDDbAGdICGCzTDdLHSNTDCJSONBDPcACBHIBCLJDKGKGLFKGdLHFCbIBBFcSKbFEECDECB",
   "GHBDbQCFLbSEbAGLDcFCCDcEBBJBBCIGNKGKGOdIbWKEDIBbDJMCbGECGcEBBCDBBNbWICFPDcKFbRCLLBNBHEBGBDCBFh",
   "KcMkSCGCbMCGCIBBBBBBBbFCcBBPBOCGBTCDBJBLFYHbXQCCbBBNDbIcKfKEzQWLVcrSCoNDCFbTBBFBCcEHCPXJHBHBHB",
   "HBHBHBHBHbHdQbIbABdLMiGbAcGGQBdIEdXFbRBdQBdIJbWBbriRDcDJnKUbVEBKbGCdCCGIiNURBDBEBZCFEKGcEIcQKM",
   "YNBbMIZLBMbEGbWBCECCCBNBLEHBZBbPGCCCLDBIBBCKCbGBbZBBDCCFCBBBYRCILGCGCGJHBHBcIEeNBCBEDKGqnSMXEb",
   "XmnCoCCeCbMHMFFBBYBFBBBCBCBzAbGQQKWbJBTBEEFBfFEgBCbFDGCGCGCDDHBHNCCMBbABTBCBPCObIeTFDEbTDdKBND",
   "BbVbTfBbDDbXQbBEbKJbEFbMKbEBbLEObQgCCKGbKEbKEbOIcALMBPBHBCBLBPBHBCDcAMlZJWKIYGBbQBJcRGCBBbSBCD",
   "BCXBcUIJbWTBCFbHDbBFbBbMcEEUCbVPEBDBbDKJHJHcMbGbLGMJcCDbDCbBFbAHEMHdCcVcDbZNbZHbQMKGbMIYICiAbF",
   "BbQDBCCQGIJbNbOIWLJWSEEbMbCUXJBBcCPHEbEBCCBMbXECCCBEOZHKJbKFBJSIbJBDLcAJBBIECBQBULSBbCDCEGBCcL",
   "HBBBEBPBLGbVBDNKICBICCCWBHBCBFDBBBBECCCCDBMHbCKBBCBBbMBBBCPBBCDBBDBCbNcEICDBBVBBBDbEbWBCGBBCBB",
   "CBCEIKgKbVBCGECBCbBbKbZICBBCELKGNTbRBBBCICGKGUbCbBDBBCEBJXhDbVJBCBdWdFMICBCIBCBYBFBCGEBDJKcSIC",
   "bQIEBEbBBKbOGCEIJBGCDbUNBCJNcVHKdJBDBBBdKbIOKGJBbMOBBGKbDDbGZBHBCBcXHBCBbMVBJKGGBCBbLECBBBBHKG",
   "bSEKjMTCEJPBbKICDXdIBPbYNbjNdYeHBFLhOdxKdVNbpGRGZfxRFwLkdDbEMDDKcoSvXHbFBKEdDBKGbEHBKbWHPKKBHB",
   "VFTqQcGhQdNFZCZbScXFcELNcMEOFJkxYbPbGdTeLmwREBHBCBlFPBbDDCBOEIpGdkUeDFNDJHKCBCBfvKjTDqUGXPRdRe",
   "McIjMKbNCcIFDWCHbEEcJVcODBeSUMUMdJJZfFdHBcTBCCBCCCEBMBBBHBcNBECIBHBbCBEBFBBDHBnCClGCvQcDEbYIBO",
   "BHbrWbFGGkBcKfQbTKHCKECmIbESbSEKFBrWbCEKiGbECLEBhKbFBDBCBHCFJCiQHBEBCBPBhPCJbWcQHBEKECbeFcQcYc",
   "JhMEBbBBCBBCBBKBEBBBBGBEBBBBBBDBCBBCBBBBBBBBBBCBBCEBHBEBEBBBKBRFDBFBRcACkKbSEdWMPCPBPBbLKgScEb",
   "DNbSEJHCOGfYblXDRDNDiKGMEBPMEcEIKGbOIbECMECOJbNnGIOCNDLDcFBBEQCMEKHfRBdZbnPclfCbGgmOCioCClbLPx",
   "YdqWuWcfYhhZFmoO"]

/-- The property Grapheme Extend. -/
def graphemeExtend : CodeSet := .ofLines
  ["bdOeIkPHkDbTBBBCBCBBcULbWVQBdXHCGCCBEbJBbEbBdNLcGJJBYEBJBDBFbRDcHJbQYBbGcDBBBEIEBDHKCbDBcGBBBC",
   "EIBJBKCbABCCcFBECECCDDBbECDBLCcFBEFBCEBUCWGBBcGBBCBEIBHDKCbEBcHBBBMBJBbOBDBcDBBDFDBEHCLCbDBcGB",
   "CCBBDDBEHCLCbCCcFCBBCEIBJBKCbDBcUBEBCDBBIBdDBCHMIdUBCJLHcVCbBBBBBBcDOBFBCFLBbKJBdYEBGBCCCZCEDQ",
   "ENBCCGBPBbbBDbkKEbCDbDCbECcMCBHIBCLJBbTDBBeNCbIBeODECJBGDiLCCBcGBBHBBBBCIGKCBbWbUCMUEbWKEDbMJM",
   "CbGECGcEBBCDBBFcEICCfWDBNBHEBGBDChQcMuEBhNbHeoCDfLBdSbGvIGeBCbsqEEBKbGCdCCkMBDBEBZCFBfVCbASNBb",
   "MIZLBBbSDbWBCECCCBbKBcPGCCCCMBIBbVBbZBBDCCFCBBbQCIBjEBCBEBbdzSBbcJQQQoCCxHBiSBfTFcmGDBCFEbODEB",
   "gJCwBEcNFmFCcZGcSLbXEeTBcCPbPBCCKDbXECCHBcJDbKFBIcKBMCcAJBBIECBdRDCEGBCBgBBDIVCcFCBBBBMBJBOHDF",
   "cPBCGBBCBBDEDBBOCdHICDBBXBdDBCGBBCBBCBCjBBCEGCBCbBCdHICBBCeCBBBCIdXBBBCEBFjZJBCjLBKEEBfOECCEBb",
   "GKbOGCEIBJGCDbUNBChQBBDBBhTHBGBBdEWCHBCBCeSGDBBCBHBBcUCDBBBnJCLCcAFFDXBhxTBGPqyYMDDdsAFcHHboIB",
   "cLEdDBLCbdaXCgyZbUCXuWFDGIICHbEEfSDcyDcDEbYIBOBWFBPcaIHBRCHBCBFdWBgEHoLBcJEtOEjUCjJBCBHCFBsGHe",
   "FHbtcaFdSeYjG"]

/-- The property Hex Digit. -/
def hexDigit : CodeSet := .ofLines
  ["bWKHGbAGdslLKHGbAG"]

/-- The property IDS Binary Operator. -/
def idsBinaryOperator : CodeSet := .ofLines
  ["seACCKtDB"]

/-- The property IDS Trinary Operator. -/
def idsTrinaryOperator : CodeSet := .ofLines
  ["seCC"]

/-- The property ID Continue. -/
def idContinue : CodeSet := .ofLines
  ["bWKHbAEBBbAbVBKBBBCBFXBbFBrQEMOFHBBBReNBCCEBBGFBBBUBdFBfJBFCgKBbMCBGbPIbTBBBCBCBBIbBEEbDLFcWEd",
   "YBICKBTCBQcHCdXOcCEBCBCbUSbCELFYBHHcXBeZCKBTBICCCWBHBBDECJCCCEIBECBFCMKBBBCDBGECCWBHBCBCBCCBBF",
   "ECCDDBHEBBHQLDBJBDBWBHBCBFCKBDBDCBPECKJHBDBICCCWBHBCBFCJCCCDHDECBFCKBBQCBGDDBEDCBBBCDCDDDMEFDD",
   "BECBGBOKQNBDBXBQCJBDBEHCBDBCCECKQEBIBDBXBKBFCJBDBEHCFDBECKBDMNBDBbZBDBFFEHFCKKGBDBSDYBJBBCHDBE",
   "GBBBIGKCCNcGFPBKbNCBBBFBYBBBXCFBBBHBKCEbGBXCGKLBBBBBEKBbKEUBSBbKJBcFcWGdACbMBBFBCbRBmVBECHBBBE",
   "CbPBECbHBECHBBBECPBcFBECcPCDJJOQQdICGDxWCRBbAFcXDLHWJWLUMNBDBCMdGDBECCKbHDBLGdLHbRFcSKbFBMEMKb",
   "OCFLbSEbAGLbLbCEcLBbDCLGKNBIOBbFCMUcZDKRJMeMMcEIKDbXCLFbRCDQDBbNFuOCGCbMCGCIBBBBBBBbFCcBBHBBDD",
   "BHDECGENFDBHPCbXCTBbCBNBQNbZNEBDMRBEBCKBBCGGBBBBBBQCEFFEBRbPdzBiVGJMbMBBFBCcEHBPYJHBHBHBHBHBHB",
   "HBHBbGtXDZPBFCFEdICHBdRFbRBdQRbGbWQtSjtOcMbguFcPbUCkJDbCUbWEKBeLbLJCdZCdEUcDEBTcAMcSKKGYDBBbXC",
   "bKMbDDcNOLGbFBcDJOCKGXDcVYDCQCFKGCGCGJHBHBbRBOGeTBCCKGqnSMXEbXmnCoCCeCbMHMFFMBNBFBBBCBCBeEbHnZ",
   "ScMCcCbOMEQQQDCYDbGFBfFTKHbAEBBbAKdMDGCGCGCDbJMBbABTBCBPCObIeTcRcBfGBfAbDDbXPBbFbGNbEFbRFbECbK",
   "EIBFbQgCCKGbKEbKEbOIcAMLBPBHBCBLBPBHBCDcAMlZJWKIYGBbQBJcRGCBBbSBCDBCXKXJbFcNTBCKWKbAGbAbMcEGCc",
   "MEBCFIBDBbDCDEBbGbDDbDbJIBbEZcCKWKTNSeGcVcDbZNbZNbOIKGbMDFBXjQbQBCDCQGbYbJKBIbHbFWbQVbBXJcTbFQ",
   "JcIHBNZHKGcBBKEEIbKCBJcREEBNBBbJSBbLGEcKHBBBEBPBKHcHFKGEBICCCWBHBCBFBKCCCDCBGBFHCHDFLKBBCBBbMB",
   "KBBCBBEBINCbDcXFKEEbEcSBBIKgKcCCJXGbIcNDBLKbMcFHKGUbCbBCPEKGHhDcHdXcWVICBCIBCBbEBCCJMKcSICbUCI",
   "BCbBcLIBIcWDBScVdZIdKbHPKGJBbTBJPKYbECWBOcVHBCBbSDBBCBJIKGGBCBbLBCBGHKGbSEKjMXJRBbPDFNLdHBdBbj",
   "MdYeHRhOdxKdTPbpGQWKfxRFwLkdDcGcoSvXHbFBKGdBBKGbECFLcDJEMKJVFTqQbTDKhQcMbGZCZbScXEcFHRcMCBCLHJ",
   "kxYbPbGdTeLmwREBHBCBlFPBbDDCBOEIpGdkUeDFNDJHKDCgeRKtYbUCXuWFDGIICHbEEfSDrBdHBcTBCCBCCCEBMBBBHB",
   "cNBECIBHBbCBEBFBBDHBnCCZBZBbFBZBbFBZBbFBZBbFBZBICbYtScDEbYIBOBWFBPbqMbFGGiFHBRCHBCBFFcKbHBeIbT",
   "DOCKEBmJbFRcGsCbQiGbRhPbFBWICiQHBEBCBPBhPLHbPcYEKbtUEBbBBCBBCBBKBEBBBBGBEBBBBBBDBCBBCBBBBBBBBB",
   "BCBBCEBHBEBEBBBKBRFDBFBRfaAKbnQclfCbGgmOCioCClbLPxYdqWuWcfYhhZFmoObogxYjG"]

/-- The property ID Start. -/
def idStart : CodeSet := .ofLines
  ["cNbAGbAbVBKBEBFXBbFBrQEMOFHBBBeZFBCCEBBGBBDBBBUBdFBfJIgKBbMCBGbPcTbBEEbTbRbJCBdVBBPCHCKDCBQBBb",
   "EbDdLLBYbHJCEBFWEBJBDBXZHLFYBHQbQcGcCDBSBHKPQEICCCWBHBBDEDBQBNCBDOCKBIGECCWBHBCBCBCbFEBBTDQJBD",
   "BWBHBCBFDBSBPCXBLICCCWBHBCBFDBbECBDPBRBBGDDBEDCBBBCDCDDDMWBcAIBDBXBQDBbADBCCCbEBEIBDBXBKBFDBbE",
   "DBCPCRJBDBbPCBQBFDIDYGFSDYBJBBCHcGbWBCMHcGCBBBFBYBBBKBCJBCFBBVEbGBcLIBbKbBFeLbRUBQGEEDBDCHDENM",
   "BRbMBBFBCbRBmVBECHBBBECbPBECbHBECHBBBECPBcFBECcPbLQQdICGDxWCRBbAFcXDLHSNTOSONBDPcAbJBEBcPdLHbP",
   "BBFcSKbFbXbECFLbSEbAcCXJcBdEBdPbVRIcCbENCKbSbAbKbPDKbKCLFbRCDbPEBGBCDBFhKcMkSCGCbMCGCIBBBBBBBb",
   "FCcBBHBBDDBHDECGENFDBHeMBNBQNdXBEBCKBBCGGBBBBBBQCEFFEBRbPdzBiVGEDCMbMBBFBCcEHBQXJHBHBHBHBHBHBH",
   "BHvEDZJHFCFEdIEFBdMBEFbRBdQRbGbWQtSjtOcMbguFcPbUCkJDQKCUbVQbFCdCbNJCdZCdEURBDBEBXbDcAObYcKGDBB",
   "CLbCKXZbDHbVbCBQFBKKFBbPXDBIUXDBDbYBBDCCFCBBBYDCLHDMGCGCGJHBHBbRBOGeLbDqnSMXEbXmnCoCCeCbMHMFFB",
   "BKBNBFBBBCBCBeEbHnZScMCcCbOMeMFBfFbKbAGbALdLDGCGCGCDbJMBbABTBCBPCObIeTcRcBkHbDDbXbVbGNbEFbMKbE",
   "CbKEIBFbQgCSbKEbKEbOIcAMLBPBHBCBLBPBHBCDcAMlZJWKIYGBbQBJcRGCBBbSBCDBCXKXJbFcNTBCKWKbAGbAbMcEGC",
   "cMBPEBDBbDbQbDDbDbJIBbCbBcCKWKTNSeGcVcDbZNbZNbKbMbCJXjQbQGCQGcEbDKBIWbQSbUVbBXMcBcFCCBNbTbGZbA",
   "bKbDBCBIbJDBMbWOEVBBBbJSBZTCcLHBBBEBPBKHbVbMICCCWBHBCBFDBSBMFbEKBBCBBbMBBZBBBbScBSEUDbEbWUCBBh",
   "CbVbPEbKbWUBcHbRNBcTbBbLHhDbSeMcMbFICBCIBCBYPBBBdQICbNQBBBbCBKbOHBVBLbUTBScVhRbHbFJBbLRBbXbEeI",
   "HBCBbMVBZGBCBbGOBXbSkATPBBNBbIeUBdBbjMdYeHRhOdxKdTPbpGRGZfxRFwLkdDbEcpUvXHbFRdBRbESbWQEbFVFTqQ",
   "bTiDcMbGZCZbScXFBcONcMCBBOFJkxYbPbGdTeLmwREBHBCBlFPBbDDCBOEIpGdkUeDFNDJHKiwKdHBcTBCCBCCCEBMBBB",
   "HBcNBECIBHBbCBEBFBBDHBnCCZBZBbFBZBbFBZBbFBZBbFBZBIcsYbFGGkBcKfQbTKHQBmJbESbSsQbCiUbECBhZbFBDBC",
   "BHCFJCiQHBEBCBPBhPcHcQHBbuIEBbBBCBBCBBKBEBBBBGBEBBBBBBDBCBBCBBBBBBBBBBCBBCEBHBEBEBBBKBRFDBFBRg",
   "oAclfCbGgmOCioCClbLPxYdqWuWcfYhhZFmoO"]

/-- The property Ideographic. -/
def ideographic : CodeSet := .ofLines
  ["seWCZJODblDjtOcMbfbKbhsIoCCeCbsiKBNFJkxYbPbGdTeLnlLpGbdeIclfCbGgmOCioCClbLPxYdqWuWcfYhhZFmoO"]

/-- The property Join Control. -/
def joinControl : CodeSet := .ofLines
  ["mdOC"]

/-- The property Logical Order Exception. -/
def logicalOrderException : CodeSet := .ofLines
  ["fkIFeTFedSDCBccxMCCBBC"]

/-- The property Lowercase. -/
def lowercase : CodeSet := .ofLines
  ["dTbAbVBKBEBbKYBIBBBBBBBBBBBBBBBBBBBBBBBBBBBBBBBBBBBBBBBBBBBBBBBBBBBBBBBCBBBBBBBBBBBBBBBCBBBBBB",
   "BBBBBBBBBBBBBBBBBBBBBBBBBBBBBBBBBBBBBBBBCBBBBDCBBBCBDCEBCBDDCBCBBBBBCBBCBBCBDBBBCCCDGBCBCBBBBB",
   "BBBBBBBBBBBCBBBBBBBBBBBBBBBBBCCBBBDBBBBBBBBBBBBBBBBBBBBBBBBBBBBBBBBBBBBBBBBBBBBBBBBBBBBBBBBBBH",
   "CBCCBBEBBBBBBBBcRCbJHCbEFdSBbRBBBDBCESBbBbJBCDDBBBBBBBBBBBBBBBBBBBBBBBFBBCBCCbZbWBBBBBBBBBBBBB",
   "BBBBBBBBBBBBBBBBBBBBBJBBBBBBBBBBBBBBBBBBBBBBBBBBBBBBBBBBBBBBBBBBBBBBBBBBBBBCBBBBBBBBBBBBCBBBBB",
   "BBBBBBBBBBBBBBBBBBBBBBBBBBBBBBBBBBBBBBBBBBBBBBBBBBBBBBBBBBBBBBBBBBBBBBBBBBBBBBBBBBBBBBBBBBBbWb",
   "PehBbRBEbdGGdfUJBBeNhKcNBBBBBBBBBBBBBBBBBBBBBBBBBBBBBBBBBBBBBBBBBBBBBBBBBBBBBBBBBBBBBBBBBBBBBB",
   "BBBBBBBBBBBBBBBBBBBBBBBBBBBBBBBBBBBBBBBBBBBBBBBBBBBBBBBBBBBBBBBBBBBBBBBBBBBBBBJBBBBBBBBBBBBBBB",
   "BBBBBBBBBBBBBBBBBBBBBBBBBBBBBBBBBBBBBBBBBBBBBBBBBBBBBBBBBBBBBBBBBBBBBBBBBBBBBBBBBBJIGKIIIIGKII",
   "IIOCIIIIIIFBCGBDDBCIECCIIKDBCeRBNBQNeFBDCDBbBBEBEBCCIEEBbHQEBbgLbActQbWBBDCBBBBBBEBBCBIDBBBBBB",
   "BBBBBBBBBBBBBBBBBBBBBBBBBBBBBBBBBBBBBBBBBBBBBBBBBBBBBBBBBBBBBBBBBBBBBBBBBBBBBBBBBBBBBBBBBBBBCH",
   "BBBEBMbMBBFBbtwDBBBBBBBBBBBBBBBBBBBBBBBBBBBBBBBBBBBBBBBBBBBBBTBBBBBBBBBBBBBBBBBBBBBBBBBBDfDBBB",
   "BBBBBBBBBDBBBBBBBBBBBBBBBBBBBBBBBBBBBBBBBBBBBBBBBBBBBBBBBBBBBBBBBBBBBBBKBBBBCBBBBBBBBBEBBBCBBD",
   "BBBBBBBBBBBBBBBBBBBBFBFBBBBBBBBBBBBBBBEBBBCBBBBBBBBBBBBBBBVEBBBDbfPbRBOGdCbeaIHMFboZbAbvHbOfGb",
   "KfZLBPBHBCrJBCDBbQBJbxLbZeVWegObGbgjWbGcHZbmjEbAbAHBSbAbAbAEBBBHBLbAbAbAbAbAbAbAbAbAbAbAbAbAbA",
   "bAbAbAbCbCZBGbAZBGbAZBGbAZBGbAZBGBBcsYKBUGGkBcKdhSbI"]

/-- The property Math. -/
def math : CodeSet := .ofLines
  ["bRBQDbFBbDBBBbTBEBbLBbFBbcADCBbACCDuHDjwNBbBDLBDBNBOEVFLFcNNEBDCEFSBEBCKBBCGGBDCCCBDBGDOBBcQYB",
   "GBCECEbGBBGCOkIIEUCdMBbEbBBBYBLHrDCMKEGECCCDFOBBBCGLIFCcFBBBbDEJDmYcMjWtSbWVCGdasQBbfRGBBgGBQD",
   "bDBBBbDBBBfBBGEfeFCcvgABbxVdHBcTBCCBCCCEBMBBBHBcNBECIBHBbCBEBFBBDHBnCClGCbYiiQEBbBBCBBCBBKBEBB",
   "BBGBEBBBBBBDBCBBCBBBBBBBBBBCBBCEBHBEBEBBBKBRFDBFBRcACdtEJ"]

/-- The property Noncharacter Code Point. -/
def noncharacterCodePoint : CodeSet := .ofLines
  ["dsdCbGuGCdsyOCdsyOCdsyOCdsyOCdsyOCdsyOCdsyOCdsyOCdsyOCdsyOCdsyOCdsyOCdsyOCdsyOCdsyOCdsyOC"]

/-- The property Pattern Syntax. -/
def patternSyntax : CodeSet := .ofLines
  ["bHPKHbAEBBbAEbIHBBBCBBBCEBEBDBXBbFBluEYIPCTBKlTbbSgEyGbEbrOtSeYoVDEZPBczqZCkBC"]

/-- The property Pattern White Space. -/
def patternWhiteSpace : CodeSet := .ofLines
  ["JFSBdWBlyMCYC"]

/-- The property Quotation Mark. -/
def quotationMark : CodeSet := .ofLines
  ["bIBEBfBBPBlwUIZCfiDBrPENDdabPEhHBEBdMC"]

/-- The property Radical. -/
def radical : CodeSet := .ofLines
  ["rpWbABdLMiG"]

/-- The property Regional Indicator. -/
def regionalIndicator : CodeSet := .ofLines
  ["hgoKbA"]

/-- The property Sentence Terminal. -/
def sentenceTerminal : CodeSet := .ofLines
  ["bHBMBQBcaBBfRDgYBbRDjMBcJBBBDClHCcpWCbeKBECbdTBhQCgBCbTBFBmCCnQEgGCKCCCbDDhFCcNCbjWBXCJDeuXDlU",
   "BNBWCqNBbshWBkKCiTBDBoSCdICdRBfWCfRDfOCjPBbfcWBCCcHBDCgNBMBQBcNBedWCbxDFbSEhHCeNEeXDeZCGBQCdKC",
   "BCeEBlMCeNCoJCFPeBCjPDtXBBBjRCdJCqECbaQCcWCbcmBCfDBcNCLBvHClKBbdoGBliMB"]

/-- The property Soft Dotted. -/
def softDotted : CodeSet := .ofLines
  ["eBChOBkVBbEBcABUBmIBdUBBBjmNBbZBNBDBfCBgBBqFBiGCegGBgelHCbYCbYCbYCbYCbYCbYCbYCbYCbYCbYCbYCbYCd",
   "fYBlTCbAB"]

/-- The property Terminal Punctuation. -/
def terminalPunctuation : CodeSet := .ofLines
  ["bHBKBBBLCDBbfYBIBtTBcFBcUBOBBDgYBbRLBBjBCcCGBIbFBkBCbwUCgQBEGlZCbeJIbdTBeUDcTCgBDDBbNECCmCCnQE",
   "gGCKCBDbDDhFFcKCbjWBXCJDeuXDlUBNBEBKBBCDCqMCbshVCkJDiTFoSCdICdRBfVDfRDeXBQCjPBbfcWBCCcFDBEgNBK",
   "BBBLCDBcNBCBbpQBbWBbsOBhRBlYCfWGcQGdLEbkQFbSEhHHeIEeXDeZCGBQCdKFeEBlMCeNDMCnUEDPeBCjPDtXBBBjRC",
   "dJCECpYDbTByVCcWCbyXFbamZCfDBcNDKBvHClJCbdoGBliLE"]

/-- The property Unified Ideograph. -/
def unifiedIdeograph : CodeSet := .ofLines
  ["tsAjtOcMbfbKbicSCBBBCKBBBBCCDdveCclfCbGgmOCioCClbLPxYgrQhhZFmoO"]

/-- The property Uppercase. -/
def uppercase : CodeSet := .ofLines
  ["cNbAdXXBHbHBBBBBBBBBBBBBBBBBBBBBBBBBBBBBBBBBBBBBBBBBBBBBBBBBBBBBBBCBBBBBBBBBBBBBBBCBBBBBBBBBBB",
   "BBBBBBBBBBBBBBBBBBBBBBBBBBBBBBBBBBBCBBBBDCBBBCBDCEBCBDDCBCBBBBBCBBCBBCBDBBBCDBHBCBCBCBBBBBBBBB",
   "BBBBBBCBBBBBBBBBBBBBBBBBCBCBBDBBBBBBBBBBBBBBBBBBBBBBBBBBBBBBBBBBBBBBBBBBBBBBBBBBBBBBBBBBHCBCCB",
   "BEBBBBBBBBlDBBBDBIBGBBDBBBCBRBJbJBCDDBBBBBBBBBBBBBBBBBBBBBBBFBCBBCCbZbWBBBBBBBBBBBBBBBBBBBBBBB",
   "BBBBBBBBBBJBBBBBBBBBBBBBBBBBBBBBBBBBBBBBBBBBBBBBBBBBBBBBBBBBBBBBBCBBBBBBBBBBBBCBBBBBBBBBBBBBBB",
   "BBBBBBBBBBBBBBBBBBBBBBBBBBBBBBBBBBBBBBBBBBBBBBBBBBBBBBBBBBBBBBBBBBBBBBBBBBBBBBBBCbMehDbMBBFBbb",
   "UdIdgLBGbRCDmIBBBBBBBBBBBBBBBBBBBBBBBBBBBBBBBBBBBBBBBBBBBBBBBBBBBBBBBBBBBBBBBBBBBBBBBBBBBBBBBB",
   "BBBBBBBBBBBBBBBBBBBBBBBBBBBBBBBBBBBBBBBBBBBBBBBBBBBBBBBBBBBBBBBBBBBBBJBBBBBBBBBBBBBBBBBBBBBBBB",
   "BBBBBBBBBBBBBBBBBBBBBBBBBBBBBBBBBBBBBBBBBBBBBBBBBBBBBBBBBBBBBBBBBBBBBBBBBJIIGKIIIIGLBBBBBBBIIc",
   "UEMEMEMFLEkCBEBDDCDCBDFGBBBBBBECEKCFBbAQTBbfMbAcsUbWbWBBDCBBBBBBEBBCBIDBBBBBBBBBBBBBBBBBBBBBBB",
   "BBBBBBBBBBBBBBBBBBBBBBBBBBBBBBBBBBBBBBBBBBBBBBBBBBBBBBBBBBBBBBBBBBBBBBBBBBBIBBBEBbtyJBBBBBBBBB",
   "BBBBBBBBBBBBBBBBBBBBBBBBBBBBBBBBBBBBTBBBBBBBBBBBBBBBBBBBBBBBBBBBfFBBBBBBBBBBBBBDBBBBBBBBBBBBBB",
   "BBBBBBBBBBBBBBBBBBBBBBBBBBBBBBBBBBBBBBBBBBBBBBBKBBBBCBBBBBBBBEBBBCBBBDBBBBBBBBBBBBBBBBBBBBFBFB",
   "BBBBBBBBBBBBBBEBBBCBBBBBBBBBBBBBBBBYBbhaHbAbuZbOfGbKgALBPBHBCcqCbZgBWegObGbgjWbGcMZbmjFbAbAbAb",
   "AbAbABBCCBCCCEBIbAbAbACBECIBHbBCBEBFBBDHbBbAbAbAbAbAbAbAbAbAbAbAbEZbHZbHZbHZbHZbHBgnLbIdbIbAGb",
   "AGbA"]

/-- The property Variation Selector. -/
def variationSelector : CodeSet := .ofLines
  ["jcTDBBdjcAQbwnkYjG"]

/-- The property White Space. -/
def whiteSpace : CodeSet := .ofLines
  ["JFSBdWBbABihJBdpNLbDCFBbVBfxWB"]

/-- The property XID Continue. -/
def xidContinue : CodeSet := .ofLines
  ["bWKHbAEBBbAbVBKBBBCBFXBbFBrQEMOFHBBBReNBCDDBBGFBBBUBdFBfJBFCgKBbMCBGbPIbTBBBCBCBBIbBEEbDLFcWEd",
   "YBICKBTCBQcHCdXOcCEBCBCbUSbCELFYBHHcXBeZCKBTBICCCWBHBBDECJCCCEIBECBFCMKBBBCDBGECCWBHBCBCBCCBBF",
   "ECCDDBHEBBHQLDBJBDBWBHBCBFCKBDBDCBPECKJHBDBICCCWBHBCBFCJCCCDHDECBFCKBBQCBGDDBEDCBBBCDCDDDMEFDD",
   "BECBGBOKQNBDBXBQCJBDBEHCBDBCCECKQEBIBDBXBKBFCJBDBEHCFDBECKBDMNBDBbZBDBFFEHFCKKGBDBSDYBJBBCHDBE",
   "GBBBIGKCCNcGFPBKbNCBBBFBYBBBXCFBBBHBKCEbGBXCGKLBBBBBEKBbKEUBSBbKJBcFcWGdACbMBBFBCbRBmVBECHBBBE",
   "CbPBECbHBECHBBBECPBcFBECcPCDJJOQQdICGDxWCRBbAFcXDLHWJWLUMNBDBCMdGDBECCKbHDBLGdLHbRFcSKbFBMEMKb",
   "OCFLbSEbAGLbLbCEcLBbDCLGKNBIOBbFCMUcZDKRJMeMMcEIKDbXCLFbRCDQDBbNFuOCGCbMCGCIBBBBBBBbFCcBBHBBDD",
   "BHDECGENFDBHPCbXCTBbCBNBQNbZNEBDMRBEBCKBBCGGBBBBBBQCEFFEBRbPdzBiVGJMbMBBFBCcEHBPYJHBHBHBHBHBHB",
   "HBHBbGtXDZPBFCFEdICCCDBdRFbRBdQRbGbWQtSjtOcMbguFcPbUCkJDbCUbWEKBeLbLJCdZCdEUcDEBTcAMcSKKGYDBBb",
   "XCbKMbDDcNOLGbFBcDJOCKGXDcVYDCQCFKGCGCGJHBHBbRBOGeTBCCKGqnSMXEbXmnCoCCeCbMHMFFMBNBFBBBCBCBeEbH",
   "fJGiKScMCcCbOKGQQQDCYDbHBBBDBBBBBBBBeWTKHbAEBBbAKdMDGCGCGCDbJMBbABTBCBPCObIeTcRcBfGBfAbDDbXPBb",
   "FbGNbEFbRFbECbKEIBFbQgCCKGbKEbKEbOIcAMLBPBHBCBLBPBHBCDcAMlZJWKIYGBbQBJcRGCBBbSBCDBCXKXJbFcNTBC",
   "KWKbAGbAbMcEGCcMEBCFIBDBbDCDEBbGbDDbDbJIBbEZcCKWKTNSeGcVcDbZNbZNbOIKGbMDFBXjQbQBCDCQGbYbJKBIbH",
   "bFWbQVbBXJcTbFQJcIHBNZHKGcBBKEEIbKCBJcREEBNBBbJSBbLGEcKHBBBEBPBKHcHFKGEBICCCWBHBCBFBKCCCDCBGBF",
   "HCHDFLKBBCBBbMBKBBCBBEBINCbDcXFKEEbEcSBBIKgKcCCJXGbIcNDBLKbMcFHKGUbCbBCPEKGHhDcHdXcWVICBCIBCBb",
   "EBCCJMKcSICbUCIBCbBcLIBIcWDBScVdZIdKbHPKGJBbTBJPKYbECWBOcVHBCBbSDBBCBJIKGGBCBbLBCBGHKGbSEKjMXJ",
   "RBbPDFNLdHBdBbjMdYeHRhOdxKdTPbpGQWKfxRFwLkdDcGcoSvXHbFBKGdBBKGbECFLcDJEMKJVFTqQbTDKhQcMbGZCZbS",
   "cXEcFHRcMCBCLHJkxYbPbGdTeLmwREBHBCBlFPBbDDCBOEIpGdkUeDFNDJHKDCgeRKtYbUCXuWFDGIICHbEEfSDrBdHBcT",
   "BCCBCCCEBMBBBHBcNBECIBHBbCBEBFBBDHBnCCZBZBbFBZBbFBZBbFBZBbFBZBICbYtScDEbYIBOBWFBPbqMbFGGiFHBRC",
   "HBCBFFcKbHBeIbTDOCKEBmJbFRcGsCbQiGbRhPbFBWICiQHBEBCBPBhPLHbPcYEKbtUEBbBBCBBCBBKBEBBBBGBEBBBBBB",
   "DBCBBCBBBBBBBBBBCBBCEBHBEBEBBBKBRFDBFBRfaAKbnQclfCbGgmOCioCClbLPxYdqWuWcfYhhZFmoObogxYjG"]

/-- The property XID Start. -/
def xidStart : CodeSet := .ofLines
  ["cNbAGbAbVBKBEBFXBbFBrQEMOFHBBBeZFBCDDBBGBBDBBBUBdFBfJIgKBbMCBGbPcTbBEEbTbRbJCBdVBBPCHCKDCBQBBb",
   "EbDdLLBYbHJCEBFWEBJBDBXZHLFYBHQbQcGcCDBSBHKPQEICCCWBHBBDEDBQBNCBDOCKBIGECCWBHBCBCBCbFEBBTDQJBD",
   "BWBHBCBFDBSBPCXBLICCCWBHBCBFDBbECBDPBRBBGDDBEDCBBBCDCDDDMWBcAIBDBXBQDBbADBCCCbEBEIBDBXBKBFDBbE",
   "DBCPCRJBDBbPCBQBFDIDYGFSDYBJBBCHcGbWBBNHcGCBBBFBYBBBKBBKBCFBBVEbGBcLIBbKbBFeLbRUBQGEEDBDCHDENM",
   "BRbMBBFBCbRBmVBECHBBBECbPBECbHBECHBBBECPBcFBECcPbLQQdICGDxWCRBbAFcXDLHSNTOSONBDPcAbJBEBcPdLHbP",
   "BBFcSKbFbXbECFLbSEbAcCXJcBdEBdPbVRIcCbENCKbSbAbKbPDKbKCLFbRCDbPEBGBCDBFhKcMkSCGCbMCGCIBBBBBBBb",
   "FCcBBHBBDDBHDECGENFDBHeMBNBQNdXBEBCKBBCGGBBBBBBQCEFFEBRbPdzBiVGEDCMbMBBFBCcEHBQXJHBHBHBHBHBHBH",
   "BHvEDZJHFCFEdIGDBdMBEFbRBdQRbGbWQtSjtOcMbguFcPbUCkJDQKCUbVQbFCdCbNJCdZCdEURBDBEBXbDcAObYcKGDBB",
   "CLbCKXZbDHbVbCBQFBKKFBbPXDBIUXDBDbYBBDCCFCBBBYDCLHDMGCGCGJHBHBbRBOGeLbDqnSMXEbXmnCoCCeCbMHMFFB",
   "BKBNBFBBBCBCBeEbHfJGiKScMCcCbOKePBBBDBBBBBBBBeWbKbAGbALcECbFDGCGCGCDbJMBbABTBCBPCObIeTcRcBkHbD",
   "DbXbVbGNbEFbMKbECbKEIBFbQgCSbKEbKEbOIcAMLBPBHBCBLBPBHBCDcAMlZJWKIYGBbQBJcRGCBBbSBCDBCXKXJbFcNT",
   "BCKWKbAGbAbMcEGCcMBPEBDBbDbQbDDbDbJIBbCbBcCKWKTNSeGcVcDbZNbZNbKbMbCJXjQbQGCQGcEbDKBIWbQSbUVbBX",
   "McBcFCCBNbTbGZbAbKbDBCBIbJDBMbWOEVBBBbJSBZTCcLHBBBEBPBKHbVbMICCCWBHBCBFDBSBMFbEKBBCBBbMBBZBBBb",
   "ScBSEUDbEbWUCBBhCbVbPEbKbWUBcHbRNBcTbBbLHhDbSeMcMbFICBCIBCBYPBBBdQICbNQBBBbCBKbOHBVBLbUTBScVhR",
   "bHbFJBbLRBbXbEeIHBCBbMVBZGBCBbGOBXbSkATPBBNBbIeUBdBbjMdYeHRhOdxKdTPbpGRGZfxRFwLkdDbEcpUvXHbFRd",
   "BRbESbWQEbFVFTqQbTiDcMbGZCZbScXFBcONcMCBBOFJkxYbPbGdTeLmwREBHBCBlFPBbDDCBOEIpGdkUeDFNDJHKiwKdH",
   "BcTBCCBCCCEBMBBBHBcNBECIBHBbCBEBFBBDHBnCCZBZBbFBZBbFBZBbFBZBbFBZBIcsYbFGGkBcKfQbTKHQBmJbESbSsQ",
   "bCiUbECBhZbFBDBCBHCFJCiQHBEBCBPBhPcHcQHBbuIEBbBBCBBCBBKBEBBBBGBEBBBBBBDBCBBCBBBBBBBBBBCBBCEBHB",
   "EBEBBBKBRFDBFBRgoAclfCbGgmOCioCClbLPxYdqWuWcfYhhZFmoO"]

/-- The names of the properties in lower case without separators, with their sets. -/
def table : List (List String × CodeSet) :=
  [(["asciihexdigit", "ahex"], asciiHexDigit),
    (["alphabetic", "alpha"], alphabetic),
    (["bidicontrol", "bidic"], bidiControl),
    (["bidimirrored", "bidim"], bidiMirrored),
    (["caseignorable", "ci"], caseIgnorable),
    (["cased"], cased),
    (["changeswhencasefolded", "cwcf"], changesWhenCasefolded),
    (["changeswhencasemapped", "cwcm"], changesWhenCasemapped),
    (["changeswhenlowercased", "cwl"], changesWhenLowercased),
    (["changeswhennfkccasefolded", "cwkcf"], changesWhenNfkcCasefolded),
    (["changeswhentitlecased", "cwt"], changesWhenTitlecased),
    (["changeswhenuppercased", "cwu"], changesWhenUppercased),
    (["dash"], dash),
    (["defaultignorablecodepoint", "di"], defaultIgnorableCodePoint),
    (["deprecated", "dep"], deprecated),
    (["diacritic", "dia"], diacritic),
    (["emoji"], emoji),
    (["emojicomponent", "ecomp"], emojiComponent),
    (["emojimodifier", "emod"], emojiModifier),
    (["emojimodifierbase", "ebase"], emojiModifierBase),
    (["emojipresentation", "epres"], emojiPresentation),
    (["extendedpictographic", "extpict"], extendedPictographic),
    (["extender", "ext"], extender),
    (["graphemebase", "grbase"], graphemeBase),
    (["graphemeextend", "grext"], graphemeExtend),
    (["hexdigit", "hex"], hexDigit),
    (["idsbinaryoperator", "idsb"], idsBinaryOperator),
    (["idstrinaryoperator", "idst"], idsTrinaryOperator),
    (["idcontinue", "idc"], idContinue),
    (["idstart", "ids"], idStart),
    (["ideographic", "ideo"], ideographic),
    (["joincontrol", "joinc"], joinControl),
    (["logicalorderexception", "loe"], logicalOrderException),
    (["lowercase", "lower"], lowercase),
    (["math"], math),
    (["noncharactercodepoint", "nchar"], noncharacterCodePoint),
    (["patternsyntax", "patsyn"], patternSyntax),
    (["patternwhitespace", "patws"], patternWhiteSpace),
    (["quotationmark", "qmark"], quotationMark),
    (["radical"], radical),
    (["regionalindicator", "ri"], regionalIndicator),
    (["sentenceterminal", "sterm"], sentenceTerminal),
    (["softdotted", "sd"], softDotted),
    (["terminalpunctuation", "term"], terminalPunctuation),
    (["unifiedideograph", "uideo"], unifiedIdeograph),
    (["uppercase", "upper"], uppercase),
    (["variationselector", "vs"], variationSelector),
    (["whitespace", "wspace", "space"], whiteSpace),
    (["xidcontinue", "xidc"], xidContinue),
    (["xidstart", "xids"], xidStart)]

/-- The property of a name in lower case without separators. -/
def named? (name : String) : Option CodeSet :=
  (table.find? (·.1.contains name)).map (·.2)

end BinaryProperty
end Schemata.Unicode
