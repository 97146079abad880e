import Schemata.Unicode.Table

/-!
# Bidirectional classes

Every code point has a class that decides the direction in which it is written. The table is as of
version 17 of the Unicode standard.

Results: `BidiClass.mem_order` (the table can name every class).
-/
namespace Schemata.Unicode

/-- A bidirectional class. -/
inductive BidiClass where
  /-- A letter written from left to right. -/
  | leftToRight
  /-- A letter written from right to left. -/
  | rightToLeft
  /-- A letter of Arabic or of a script like it. -/
  | arabicLetter
  /-- An Arabic digit. -/
  | arabicNumber
  /-- A European digit. -/
  | europeanNumber
  /-- A sign such as plus and minus. -/
  | europeanSeparator
  /-- A separator inside numbers, such as the comma. -/
  | commonSeparator
  /-- A sign beside a number, such as a currency. -/
  | europeanTerminator
  /-- Any other sign. -/
  | otherNeutral
  /-- A control without a direction. -/
  | boundaryNeutral
  /-- A mark without width. -/
  | nonspacingMark
  /-- A separator of paragraphs or fields, a space, or a control that sets a direction. -/
  | layout
  deriving DecidableEq, Repr, Inhabited

namespace BidiClass

/-- The classes in the order of their numbers in the table. -/
def order : List BidiClass :=
  [.leftToRight, .rightToLeft, .arabicLetter, .arabicNumber, .europeanNumber, .europeanSeparator,
    .commonSeparator, .europeanTerminator, .otherNeutral, .boundaryNeutral, .nonspacingMark,
    .layout]

theorem mem_order (b : BidiClass) : b ∈ order := by cases b <;> simp [order]

/-- The lengths of runs of code points, and the numbers of their classes. -/
def table : List (Nat × Nat) := pairs (numbers
  ["JJFLOJFLCIDHFIBFBGBFCGKEBGGIbAAGIbAAEIGJBLbAJBGBIEHEIBACIBJCICHCEBIBADIBEBAFIXABIbFABIrHACIHAO",
   "ICAOIFAJIBARIeIKEACIIABIFACIBABIeGABIfKAHKjWABICACIBHBBbTKBBBKBBCKBBCKBBBKcEBGDCIBCCHBCBGBCCIL",
   "KbWCVKKDBHCDDCBKdXCHKBDBIGKCCCKBIEKCCKEXCBKbECbBKdNCLKPCbRBJKCBEIDBBKYBEKBBJKBBDKBBFKbRBDKEBbW",
   "CCDFCJKbQCYKBDbGKcDABKBABKEAIKEABKDAHKKACKbDABKcGABKEAEKIABKUACKOACHHABHCABKCACKcFABKEACKEACKC",
   "ADKDABKbEACKDABKLACKcFABKEAFKBACKEABKUACKNABHIAGKBABKcGABKCABKBAEKIABKHACKLACKbEABKcJABKMABKbL",
   "AGIBHBIFABKDABKcDABKBADKFADKBAEKHACKLACKUAHICABKcGABKPACKUACKbCACKcFACKEAEKIABKUACKbDABKcUABKH",
   "ADKBABKdMABKCAHKEABHHAIKdUABKCAJKLAHKcVACKbBABKBABKBABKEIbZAOKBAFKBACKFALKBAbKKJABKdYAEKBAGKBA",
   "CKCACKZACKEADKQAEKNABKCACKGABKPABKbbBADKbWAKIdYABIyPABLbAACIeNADKbDACKbEACKbEACKcMACKBAHKIABKC",
   "ALKHABHBABKSAKIGALIDKBJBKeNACKbIABKeOADKEACKJABKGADKEABIDACIfWAbIIXACKCABKcGABKBAHKBABKBABKCAI",
   "KGAKKCABKbWAbUKCAMKUAEKbWABKBAFKBABKFABKbOAJKMACKbGAEKCACKBADKcEABKBACKDABKBADKcGAIKCACKfWADKB",
   "ANKBAHKEABKGABKDACKhQAcMKrDABIBADILADINADINADINACIBALLDJBABBYIHLBGFHPIBGbAIBLGJELGJBEDAGECFDIB",
   "AKECFDIRAbWHbHKPACIBAEIBACIKABIBADIFAGIBABIBABIBABIEABHLACIEAFIFAEICAQIbPADIEAfAIBFBHlEIcRAbAI",
   "BAfSIWALIVAbOIUEdAArIIBAnBIjWAyEICAfIIiVAGIEADKHAHIeXABKdSAbGKdQIbIAbAIBAdLIMAiGIbAAQIBLEIDAZI",
   "JAEKCABIFACIFADIdLACKCIDABIdMABIhOAbMIJABIbTACIbXAQIbCADIbYAPIMAEIgLAEIdVACIbFABIjtOAcMIbguIAc",
   "DImOADIdRAEKBIKKCIbEACKdCACKOAbIIdYABIeRABKDABKEABKZACKBAEIBKLACHcGAEIcYACKbAASKNABKbMAIKZALKb",
   "UADKbWABKCAEKCACKbNABKcPAGKCACKCACKMABKIABKbVABKbZABKBADKCACKFACKBABKbQACKIABKeLACIeRABKCABKEA",
   "BKbdzRABBBKKBBFbMBeLCQInZCSIcMCCIcCCIIbGJNCDIQKKIGAQKbGIBGBIBGBABIBGJIBHCICFDIBABICHBIEAfNCBJB",
   "ACIDHFIBFBGBFCGKEBGGIbAAGIbAALIeSACHDICHBAHIBAJJFICJjXABIcKAcZIDANIDABIdOABKiSABKbBEeSAFKbsNAl",
   "BBBIiRBDKBBCKFBEKbOBDKEBBKgJBCKdEBHIrGBbKCEKICKDGCbPBFKBIjHBbFDbSBCKTBQCJIbHCGKbWBWCLKbFCSBEKe",
   "SBBABKcCAPKLAUIKABKCACKKADKbXAEKCACKHABKcJADKbKAFKBAIKcKABKMACKcAAJKKAEKCABKdRADKCABKBACKGABKC",
   "ABKgBABKDAIKVACKcFACKDABKbLAHKDAFKcSAGKNABKBABKBABKOACKdHAIKCADKBABKXABKdGAGKBABKEACKBACKjEAEK",
   "GACKBACKbBACKdHAIKCABKBACKbFANIcKABKBABKCAGKBABKdXADKCAEKBAFKjZAJKBACKjWACKBABKEABKfOAEKCACKEA",
   "BKbGAGKCACKbOAGKCAEKIABKJAGKCADKbUANKBACKhQABKBADKBABKhTAHKBAGKdGAWKCAHKBACKBACKeSAGKDABKBACKB",
   "AHKBABKcUACKDABKBABKnJACKLACKcAAFKFABKBABKXABKeSAIIEHRIhrYABKGAPKqyYAMKDADKdsAAFKcHAHKboIABKcL",
   "AEKdBABIBABKbdbKACKBAEJfvGAjGIKEDIDAqUIGAXIPARIPAbUKCAXKuYADKJAIJIKCAHKbEAEKcHACIVAcOIDKBIhEAd",
   "JIbiQABIcFABIcFABIcFABIcFABIKAbYEtSAcDKEAbYKIABKOABKWAFKBAPKcaIAHKBARKCAHKBACKBAFKdWABKgEAHKoL",
   "ABKcJAEKPABHsYAEKjUACKjJABKCABKHACKFABKkGAiABHKeFBHKbeZBdCCcMBdCCgUBjGCCIOCjWBbSIEAdWIMAPICAPI",
   "BAPIBAbLIKALEFIbFABIcGAGIcJABIgWAGIfYAblXIDARIDANIDAiKIGAMIEABIPAMIEAcEIIAKIGAbOIIAbEICAMIEACI",
   "OAJIbNAnGIIAOICANIDALIDAcFIBABIEAQICAMIEAKIHAfRIBAdOIKEBIbnNACJdsyOACJdsyOACJdsyOACJdsyOACJdsy",
   "OACJdsyOACJdsyOACJdsyOACJdsyOACJdsyOACJdsyOACJdsyOAjYJjGKfiMJdmxAACJdsyOACJdsyOACJ"])

/-- The class of a code point. -/
def of (n : Nat) : BidiClass :=
  ((labelAt table n).bind (order[·]?)).getD .leftToRight

end BidiClass
end Schemata.Unicode
