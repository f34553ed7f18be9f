import ModuleGlue.Text.NameTable.Basic

/-!
Contract: the names of East Asian characters, and of more scripts and forms.

Owns: the names, in runs of characters that follow each other.

Does not own: how the names are looked up.
-/

namespace ModuleGlue.Text

def namesFrom2C00 : List NameRun :=
  [⟨0x2c00, ["aGLAGOLITIC CAPITAL LETTER AZUdBUKYdVEDEdGLAGOLIdDOBROdYESTUdZHIVETEdDZELOdZEMLJA",
      "dIZHEdINITIAL IZHEdIdDJERVIdKAKOdLJUDIJEdMYSLITEdNASHIdONUdPOKOJIdRITSIdSLOVOdTVRIDO",
      "dUKUdFRITUdHERUdOTUdPEdSHTAdTSIdCHRIVIdSHAdYERUdYERIdYATIdSPIDERY HAdYUdSMALL YUS",
      "fWITH TAILdYOdIOTATED SMALL YUSdBIG YUSdIOTATED BIG YUSdFITAdIZHITSAdSHTAPIC",
      "dTROKUTASTI AdLATINATE MYSLITEdCAUDATE CHRIVIbSMALL LETTER AZUdBUKYdVEDEdGLAGOLIdDOBRO",
      "dYESTUdZHIVETEdDZELOdZEMLJAdIZHEdINITIAL IZHEdIdDJERVIdKAKOdLJUDIJEdMYSLITEdNASHIdONU",
      "dPOKOJIdRITSIdSLOVOdTVRIDOdUKUdFRITUdHERUdOTUdPEdSHTAdTSIdCHRIVIdSHAdYERUdYERIdYATI",
      "dSPIDERY HAdYUdSMALL YUSfWITH TAILdYOdIOTATED SMALL YUSdBIG YUSdIOTATED BIG YUSdFITA",
      "dIZHITSAdSHTAPICdTROKUTASTI AdLATINATE MYSLITEdCAUDATE CHRIVI",
      "aLATIN CAPITAL LETTER L WITH DOUBLE BARbSMALL LETTER L WITH DOUBLE BAR",
      "bCAPITAL LETTER L WITH MIDDLE TILDEdP WITH STROKEdR WITH TAIL",
      "bSMALL LETTER A WITH STROKEdT WITH DIAGONAL STROKEbCAPITAL LETTER H WITH DESCENDER",
      "bSMALL LETTER H WITH DESCENDERbCAPITAL LETTER K WITH DESCENDER",
      "bSMALL LETTER K WITH DESCENDERbCAPITAL LETTER Z WITH DESCENDER",
      "bSMALL LETTER Z WITH DESCENDERbCAPITAL LETTER ALPHAdM WITH HOOKdTURNED AeALPHA",
      "bSMALL LETTER V WITH RIGHT HOOKbCAPITAL LETTER W WITH HOOKbSMALL LETTER W WITH HOOK",
      "dV WITH CURLbCAPITAL LETTER HALF HbSMALL LETTER HALF HdTAILLESS PHIdE WITH NOTCH",
      "dTURNED R WITH TAILdO WITH LOW RING INSIDEbLETTER SMALL CAPITAL TURNED E",
      "bSUBSCRIPT SMALL LETTER JaMODIFIER LETTER CAPITAL V",
      "aLATIN CAPITAL LETTER S WITH SWASH TAILdZ WITH SWASH TAILaCOPTIC CAPITAL LETTER ALFA",
      "bSMALL LETTER ALFAbCAPITAL LETTER VIDAbSMALL LETTER VIDAbCAPITAL LETTER GAMMA",
      "bSMALL LETTER GAMMAbCAPITAL LETTER DALDAbSMALL LETTER DALDAbCAPITAL LETTER EIE",
      "bSMALL LETTER EIEbCAPITAL LETTER SOUbSMALL LETTER SOUbCAPITAL LETTER ZATA",
      "bSMALL LETTER ZATAbCAPITAL LETTER HATEbSMALL LETTER HATEbCAPITAL LETTER THETHE",
      "bSMALL LETTER THETHEbCAPITAL LETTER IAUDAbSMALL LETTER IAUDAbCAPITAL LETTER KAPA",
      "bSMALL LETTER KAPAbCAPITAL LETTER LAULAbSMALL LETTER LAULAbCAPITAL LETTER MI",
      "bSMALL LETTER MIbCAPITAL LETTER NIbSMALL LETTER NIbCAPITAL LETTER KSIbSMALL LETTER KSI",
      "bCAPITAL LETTER ObSMALL LETTER ObCAPITAL LETTER PIbSMALL LETTER PIbCAPITAL LETTER RO",
      "bSMALL LETTER RObCAPITAL LETTER SIMAbSMALL LETTER SIMAbCAPITAL LETTER TAU",
      "bSMALL LETTER TAUbCAPITAL LETTER UAbSMALL LETTER UAbCAPITAL LETTER FIbSMALL LETTER FI",
      "bCAPITAL LETTER KHIbSMALL LETTER KHIbCAPITAL LETTER PSIbSMALL LETTER PSI",
      "bCAPITAL LETTER OOUbSMALL LETTER OOUbCAPITAL LETTER DIALECT-P ALEF",
      "bSMALL LETTER DIALECT-P ALEFbCAPITAL LETTER OLD COPTIC AINbSMALL LETTER OLD COPTIC AIN",
      "bCAPITAL LETTER CRYPTOGRAMMIC EIEbSMALL LETTER CRYPTOGRAMMIC EIE",
      "bCAPITAL LETTER DIALECT-P KAPAbSMALL LETTER DIALECT-P KAPAbCAPITAL LETTER DIALECT-P NI",
      "bSMALL LETTER DIALECT-P NIbCAPITAL LETTER CRYPTOGRAMMIC NI",
      "bSMALL LETTER CRYPTOGRAMMIC NIbCAPITAL LETTER OLD COPTIC OOU",
      "bSMALL LETTER OLD COPTIC OOUbCAPITAL LETTER SAMPIbSMALL LETTER SAMPI",
      "bCAPITAL LETTER CROSSED SHEIbSMALL LETTER CROSSED SHEIbCAPITAL LETTER OLD COPTIC SHEI",
      "bSMALL LETTER OLD COPTIC SHEIbCAPITAL LETTER OLD COPTIC ESHbSMALL LETTER OLD COPTIC ESH",
      "bCAPITAL LETTER AKHMIMIC KHEIbSMALL LETTER AKHMIMIC KHEIbCAPITAL LETTER DIALECT-P HORI",
      "bSMALL LETTER DIALECT-P HORIbCAPITAL LETTER OLD COPTIC HORI",
      "bSMALL LETTER OLD COPTIC HORIbCAPITAL LETTER OLD COPTIC HAbSMALL LETTER OLD COPTIC HA",
      "bCAPITAL LETTER L-SHAPED HAbSMALL LETTER L-SHAPED HAbCAPITAL LETTER OLD COPTIC HEI",
      "bSMALL LETTER OLD COPTIC HEIbCAPITAL LETTER OLD COPTIC HATbSMALL LETTER OLD COPTIC HAT",
      "bCAPITAL LETTER OLD COPTIC GANGIAbSMALL LETTER OLD COPTIC GANGIA",
      "bCAPITAL LETTER OLD COPTIC DJAbSMALL LETTER OLD COPTIC DJA",
      "bCAPITAL LETTER OLD COPTIC SHIMAbSMALL LETTER OLD COPTIC SHIMA",
      "bCAPITAL LETTER OLD NUBIAN SHIMAbSMALL LETTER OLD NUBIAN SHIMA",
      "bCAPITAL LETTER OLD NUBIAN NGIbSMALL LETTER OLD NUBIAN NGI",
      "bCAPITAL LETTER OLD NUBIAN NYIbSMALL LETTER OLD NUBIAN NYI",
      "bCAPITAL LETTER OLD NUBIAN WAUbSMALL LETTER OLD NUBIAN WAUbSYMBOL KAIcMI ROcPI RO",
      "cSTAUROScTAU ROcKHI ROcSHIMA SIMAbCAPITAL LETTER CRYPTOGRAMMIC SHEI",
      "bSMALL LETTER CRYPTOGRAMMIC SHEIbCAPITAL LETTER CRYPTOGRAMMIC GANGIA",
      "bSMALL LETTER CRYPTOGRAMMIC GANGIAbCOMBINING NI ABOVEcSPIRITUS ASPERdLENIS",
      "bCAPITAL LETTER BOHAIRIC KHEIbSMALL LETTER BOHAIRIC KHEI"]⟩,
    ⟨0x2cf9, ["aCOPTIC OLD NUBIAN FULL STOPdDIRECT QUESTION MARKdINDIRECT QUESTION MARK",
      "dVERSE DIVIDERbFRACTION ONE HALFbFULL STOPbMORPHOLOGICAL DIVIDER",
      "aGEORGIAN SMALL LETTER ANdBANdGANdDONdENdVINdZENdTANdINdKANdLASdMANdNARdONdPARdZHARdRAE",
      "dSANdTARdUNdPHARdKHARdGHANdQARdSHINdCHINdCANdJILdCILdCHARdXANdJHANdHAEdHEdHIEdWEdHAR",
      "dHOE"]⟩,
    ⟨0x2d27, ["aGEORGIAN SMALL LETTER YN"]⟩,
    ⟨0x2d2d, ["aGEORGIAN SMALL LETTER AEN"]⟩,
    ⟨0x2d30, ["aTIFINAGH LETTER YAcYABcYABHcYAGcYAGHHcBERBER ACADEMY YAJcYAJcYADcYADHcYADDcYADDH",
      "cYEYcYAFcYAKcTUAREG YAKcYAKHHcYAHcBERBER ACADEMY YAHcTUAREG YAHcYAHHcYAAcYAKH",
      "cTUAREG YAKHcYAQcTUAREG YAQcYIcYAZHcAHAGGAR YAZHcTUAREG YAZHcYALcYAMcYANcTUAREG YAGN",
      "dYANGcYAPcYUcYARcYARRcYAGHcTUAREG YAGHcAYER YAGHcYAScYASScYASHcYATcYATHcYACHcYATTcYAV",
      "cYAWcYAYcYAZcTAWELLEMET YAZcYAZZcYEcYO"]⟩,
    ⟨0x2d6f, ["aTIFINAGH MODIFIER LETTER LABIALIZATION MARKbSEPARATOR MARK"]⟩,
    ⟨0x2d7f, ["aTIFINAGH CONSONANT JOINERaETHIOPIC SYLLABLE LOAcMOAcROAcSOAcSHOAcBOAcTOAcCOAcNOA",
      "cNYOAcGLOTTAL OAcZOAcDOAcDDOAcJOAcTHOAcCHOAcPHOAcPOAcGGWAcGGWIcGGWEEcGGWE"]⟩,
    ⟨0x2da0, ["aETHIOPIC SYLLABLE SSAcSSUcSSIcSSAAcSSEEcSSEcSSO"]⟩,
    ⟨0x2da8, ["aETHIOPIC SYLLABLE CCAcCCUcCCIcCCAAcCCEEcCCEcCCO"]⟩,
    ⟨0x2db0, ["aETHIOPIC SYLLABLE ZZAcZZUcZZIcZZAAcZZEEcZZEcZZO"]⟩,
    ⟨0x2db8, ["aETHIOPIC SYLLABLE CCHAcCCHUcCCHIcCCHAAcCCHEEcCCHEcCCHO"]⟩,
    ⟨0x2dc0, ["aETHIOPIC SYLLABLE QYAcQYUcQYIcQYAAcQYEEcQYEcQYO"]⟩,
    ⟨0x2dc8, ["aETHIOPIC SYLLABLE KYAcKYUcKYIcKYAAcKYEEcKYEcKYO"]⟩,
    ⟨0x2dd0, ["aETHIOPIC SYLLABLE XYAcXYUcXYIcXYAAcXYEEcXYEcXYO"]⟩,
    ⟨0x2dd8, ["aETHIOPIC SYLLABLE GYAcGYUcGYIcGYAAcGYEEcGYEcGYO"]⟩,
    ⟨0x2de0, ["aCOMBINING CYRILLIC LETTER BEdVEdGHEdDEdZHEdZEdKAdELdEMdENdOdPEdERdESdTEdHAdTSE",
      "dCHEdSHAdSHCHAdFITAdES-TEdAdIEdDJERVdMONOGRAPH UKdYATdYUdIOTIFIED AdLITTLE YUSdBIG YUS",
      "dIOTIFIED BIG YUSaRIGHT ANGLE SUBSTITUTION MARKERcDOTTED SUBSTITUTION MARKER",
      "aLEFT SUBSTITUTION BRACKETaRIGHT SUBSTITUTION BRACKETaLEFT DOTTED SUBSTITUTION BRACKET",
      "aRIGHT DOTTED SUBSTITUTION BRACKETaRAISED INTERPOLATION MARKER",
      "bDOTTED INTERPOLATION MARKERaDOTTED TRANSPOSITION MARKERaLEFT TRANSPOSITION BRACKET",
      "aRIGHT TRANSPOSITION BRACKETaRAISED SQUAREaLEFT RAISED OMISSION BRACKET",
      "aRIGHT RAISED OMISSION BRACKETaEDITORIAL CORONISaPARAGRAPHOSaFORKED PARAGRAPHOS",
      "aREVERSED FORKED PARAGRAPHOSaHYPODIASTOLEaDOTTED OBELOSaDOWNWARDS ANCORAaUPWARDS ANCORA",
      "aDOTTED RIGHT-POINTING ANGLEaDOUBLE OBLIQUE HYPHENaINVERTED INTERROBANGaPALM BRANCH",
      "aHYPHEN WITH DIAERESISaTILDE WITH RING ABOVEaLEFT LOW PARAPHRASE BRACKET",
      "aRIGHT LOW PARAPHRASE BRACKETaTILDE WITH DOT ABOVEdBELOWaLEFT VERTICAL BAR WITH QUILL",
      "aRIGHT VERTICAL BAR WITH QUILLaTOP LEFT HALF BRACKETbRIGHT HALF BRACKET",
      "aBOTTOM LEFT HALF BRACKETbRIGHT HALF BRACKETaLEFT SIDEWAYS U BRACKET",
      "aRIGHT SIDEWAYS U BRACKETaLEFT DOUBLE PARENTHESISaRIGHT DOUBLE PARENTHESIS",
      "aTWO DOTS OVER ONE DOT PUNCTUATIONaONE DOT OVER TWO DOTS PUNCTUATION",
      "aSQUARED FOUR DOT PUNCTUATIONaFIVE DOT MARKaREVERSED QUESTION MARKaVERTICAL TILDE",
      "aRING POINTaWORD SEPARATOR MIDDLE DOTaTURNED COMMAaRAISED DOTbCOMMAaTURNED SEMICOLON",
      "aDAGGER WITH LEFT GUARDcRIGHT GUARDaTURNED DAGGERaTOP HALF SECTION SIGNaTWO-EM DASH",
      "aTHREE-EM DASHaSTENOGRAPHIC FULL STOPaVERTICAL SIX DOTSaWIGGLY VERTICAL LINEaCAPITULUM",
      "aDOUBLE HYPHENaREVERSED COMMAaDOUBLE LOW-REVERSED-9 QUOTATION MARK",
      "aDASH WITH LEFT UPTURNaDOUBLE SUSPENSION MARKaINVERTED LOW KAVYKAdWITH KAVYKA ABOVE",
      "aLOW KAVYKAcWITH DOTaDOUBLE STACKED COMMAaDOTTED SOLIDUSaTRIPLE DAGGERaMEDIEVAL COMMA",
      "aPARAGRAPHUS MARKaPUNCTUS ELEVATUS MARKaCORNISH VERSE DIVIDER",
      "aCROSS PATTY WITH RIGHT CROSSBARdLEFT CROSSBARaTIRONIAN SIGN CAPITAL ET",
      "aMEDIEVAL EXCLAMATION MARKbQUESTION MARKaLEFT SQUARE BRACKET WITH STROKE",
      "aRIGHT SQUARE BRACKET WITH STROKEaLEFT SQUARE BRACKET WITH DOUBLE STROKE",
      "aRIGHT SQUARE BRACKET WITH DOUBLE STROKEaTOP HALF LEFT PARENTHESIScRIGHT PARENTHESIS",
      "aBOTTOM HALF LEFT PARENTHESIScRIGHT PARENTHESISaOBLIQUE HYPHEN"]⟩,
    ⟨0x2e80, ["aCJK RADICAL REPEATcCLIFFcSECOND ONEdTWOdTHREEcPERSONcBOXcTABLEcKNIFE ONEdTWO",
      "cDIVINATIONcSEALcSMALL ONEdTWOcLAME ONEdTWOdTHREEdFOURcSNAKEcTHREADcSNOUT ONEdTWO",
      "cHEART ONEdTWOcHANDcRAP"]⟩]

def namesFrom2E9B : List NameRun :=
  [⟨0x2e9b, ["aCJK RADICAL CHOKEcSUNcMOONcDEATHcMOTHERcCIVILIANcWATER ONEdTWOcFIREcPAW ONEdTWO",
      "cSIMPLIFIED HALF TREE TRUNKcCOWcDOGcJADEcBOLT OF CLOTHcEYEcSPIRIT ONEdTWOcBAMBOOcSILK",
      "cC-SIMPLIFIED SILKcNET ONEdTWOdTHREEdFOURcMESHcSHEEPcRAMcEWEcOLDcBRUSH ONEdTWOcMEAT",
      "cMORTARcGRASS ONEdTWOdTHREEcTIGERcCLOTHEScWEST ONEdTWOcC-SIMPLIFIED SEEcSIMPLIFIED HORN",
      "cHORNcC-SIMPLIFIED SPEECHdSHELLcFOOTcC-SIMPLIFIED CARTcSIMPLIFIED WALKcWALK ONEdTWO",
      "cCITYcC-SIMPLIFIED GOLDcLONG ONEdTWOcC-SIMPLIFIED LONGdGATEcMOUND ONEdTWOcRAINcBLUE",
      "cC-SIMPLIFIED TANNED LEATHERdLEAFdWINDdFLYcEAT ONEdTWOdTHREEcC-SIMPLIFIED EATcHEAD",
      "cC-SIMPLIFIED HORSEcBONEcGHOSTcC-SIMPLIFIED FISHdBIRDdSALTcSIMPLIFIED WHEATdYELLOW",
      "cC-SIMPLIFIED FROGcJ-SIMPLIFIED EVENcC-SIMPLIFIED EVENcJ-SIMPLIFIED TOOTH",
      "cC-SIMPLIFIED TOOTHcJ-SIMPLIFIED DRAGONcC-SIMPLIFIED DRAGONcTURTLEcJ-SIMPLIFIED TURTLE",
      "cC-SIMPLIFIED TURTLE"]⟩,
    ⟨0x2f00, ["aKANGXI RADICAL ONEcLINEcDOTcSLASHcSECONDcHOOKcTWOcLIDcMANcLEGScENTERcEIGHT",
      "cDOWN BOXcCOVERcICEcTABLEcOPEN BOXcKNIFEcPOWERcWRAPcSPOONcRIGHT OPEN BOX",
      "cHIDING ENCLOSUREcTENcDIVINATIONcSEALcCLIFFcPRIVATEcAGAINcMOUTHcENCLOSUREcEARTHcSCHOLAR",
      "cGOdSLOWLYcEVENINGcBIGcWOMANcCHILDcROOFcINCHcSMALLcLAMEcCORPSEcSPROUTcMOUNTAINcRIVER",
      "cWORKcONESELFcTURBANcDRYcSHORT THREADcDOTTED CLIFFcLONG STRIDEcTWO HANDScSHOOTcBOW",
      "cSNOUTcBRISTLEcSTEPcHEARTcHALBERDcDOORcHANDcBRANCHcRAPcSCRIPTcDIPPERcAXEcSQUAREcNOTcSUN",
      "cSAYcMOONcTREEcLACKcSTOPcDEATHcWEAPONcDO NOTcCOMPAREcFURcCLANcSTEAMcWATERcFIREcCLAW",
      "cFATHERcDOUBLE XcHALF TREE TRUNKcSLICEcFANGcCOWcDOGcPROFOUNDcJADEcMELONcTILEcSWEETcLIFE",
      "cUSEcFIELDcBOLT OF CLOTHcSICKNESScDOTTED TENTcWHITEcSKINcDISHcEYEcSPEARcARROWcSTONE",
      "cSPIRITcTRACKcGRAINcCAVEcSTANDcBAMBOOcRICEcSILKcJARcNETcSHEEPcFEATHERcOLDcANDcPLOWcEAR",
      "cBRUSHcMEATcMINISTERcSELFcARRIVEcMORTARcTONGUEcOPPOSEcBOATcSTOPPINGcCOLORcGRASScTIGER",
      "cINSECTcBLOODcWALK ENCLOSUREcCLOTHEScWESTcSEEcHORNcSPEECHcVALLEYcBEANcPIGcBADGERcSHELL",
      "cREDcRUNcFOOTcBODYcCARTcBITTERcMORNINGcWALKcCITYcWINEcDISTINGUISHcVILLAGEcGOLDcLONG",
      "cGATEcMOUNDcSLAVEcSHORT TAILED BIRDcRAINcBLUEcWRONGcFACEcLEATHERcTANNED LEATHERcLEEK",
      "cSOUNDcLEAFcWINDcFLYcEATcHEADcFRAGRANTcHORSEcBONEcTALLcHAIRcFIGHTcSACRIFICIAL WINE",
      "cCAULDRONcGHOSTcFISHcBIRDcSALTcDEERcWHEATcHEMPcYELLOWcMILLETcBLACKcEMBROIDERYcFROG",
      "cTRIPODcDRUMcRATcNOSEcEVENcTOOTHcDRAGONcTURTLEcFLUTE"]⟩,
    ⟨0x2ff0, ["aIDEOGRAPHIC DESCRIPTION CHARACTER LEFT TO RIGHTdABOVE TO BELOW",
      "dLEFT TO MIDDLE AND RIGHTdABOVE TO MIDDLE AND BELOWdFULL SURROUNDdSURROUND FROM ABOVE",
      "fBELOWfLEFTfUPPER LEFTgRIGHTfLOWER LEFTdOVERLAID"]⟩,
    ⟨0x3000, ["aIDEOGRAPHIC SPACEbCOMMAbFULL STOPaDITTO MARKaJAPANESE INDUSTRIAL STANDARD SYMBOL",
      "aIDEOGRAPHIC ITERATION MARKbCLOSING MARKbNUMBER ZEROaLEFT ANGLE BRACKET",
      "aRIGHT ANGLE BRACKETaLEFT DOUBLE ANGLE BRACKETaRIGHT DOUBLE ANGLE BRACKET",
      "aLEFT CORNER BRACKETaRIGHT CORNER BRACKETaLEFT WHITE CORNER BRACKET",
      "aRIGHT WHITE CORNER BRACKETaLEFT BLACK LENTICULAR BRACKET",
      "aRIGHT BLACK LENTICULAR BRACKETaPOSTAL MARKaGETA MARKaLEFT TORTOISE SHELL BRACKET",
      "aRIGHT TORTOISE SHELL BRACKETaLEFT WHITE LENTICULAR BRACKET",
      "aRIGHT WHITE LENTICULAR BRACKETaLEFT WHITE TORTOISE SHELL BRACKET",
      "aRIGHT WHITE TORTOISE SHELL BRACKETaLEFT WHITE SQUARE BRACKET",
      "aRIGHT WHITE SQUARE BRACKETaWAVE DASHaREVERSED DOUBLE PRIME QUOTATION MARK",
      "aDOUBLE PRIME QUOTATION MARKaLOW DOUBLE PRIME QUOTATION MARKaPOSTAL MARK FACE",
      "aHANGZHOU NUMERAL ONEcTWOcTHREEcFOURcFIVEcSIXcSEVENcEIGHTcNINE",
      "aIDEOGRAPHIC LEVEL TONE MARKbRISING TONE MARKbDEPARTING TONE MARKbENTERING TONE MARK",
      "aHANGUL SINGLE DOT TONE MARKbDOUBLE DOT TONE MARKaWAVY DASHaVERTICAL KANA REPEAT MARK",
      "dWITH VOICED SOUND MARKdMARK UPPER HALFdWITH VOICED SOUND MARK UPPER HALF",
      "dMARK LOWER HALFaCIRCLED POSTAL MARKaIDEOGRAPHIC TELEGRAPH LINE FEED SEPARATOR SYMBOL",
      "aHANGZHOU NUMERAL TENcTWENTYcTHIRTYaVERTICAL IDEOGRAPHIC ITERATION MARKaMASU MARK",
      "aPART ALTERNATION MARKaIDEOGRAPHIC VARIATION INDICATORbHALF FILL SPACE"]⟩,
    ⟨0x3041, ["aHIRAGANA LETTER SMALL AcAcSMALL IcIcSMALL UcUcSMALL EcEcSMALL OcOcKAcGAcKIcGIcKU",
      "cGUcKEcGEcKOcGOcSAcZAcSIcZIcSUcZUcSEcZEcSOcZOcTAcDAcTIcDIcSMALL TUcTUcDUcTEcDEcTOcDOcNA",
      "cNIcNUcNEcNOcHAcBAcPAcHIcBIcPIcHUcBUcPUcHEcBEcPEcHOcBOcPOcMAcMIcMUcMEcMOcSMALL YAcYA",
      "cSMALL YUcYUcSMALL YOcYOcRAcRIcRUcREcROcSMALL WAcWAcWIcWEcWOcNcVUcSMALL KAdKE"]⟩,
    ⟨0x3099, ["aCOMBINING KATAKANA-HIRAGANA VOICED SOUND MARKcSEMI-VOICED SOUND MARK",
      "aKATAKANA-HIRAGANA VOICED SOUND MARKbSEMI-VOICED SOUND MARKaHIRAGANA ITERATION MARK",
      "bVOICED ITERATION MARKbDIGRAPH YORIaKATAKANA-HIRAGANA DOUBLE HYPHEN",
      "aKATAKANA LETTER SMALL AcAcSMALL IcIcSMALL UcUcSMALL EcEcSMALL OcOcKAcGAcKIcGIcKUcGUcKE",
      "cGEcKOcGOcSAcZAcSIcZIcSUcZUcSEcZEcSOcZOcTAcDAcTIcDIcSMALL TUcTUcDUcTEcDEcTOcDOcNAcNIcNU",
      "cNEcNOcHAcBAcPAcHIcBIcPIcHUcBUcPUcHEcBEcPEcHOcBOcPOcMAcMIcMUcMEcMOcSMALL YAcYAcSMALL YU",
      "cYUcSMALL YOcYOcRAcRIcRUcREcROcSMALL WAcWAcWIcWEcWOcNcVUcSMALL KAdKEcVAcVIcVEcVO",
      "bMIDDLE DOTaKATAKANA-HIRAGANA PROLONGED SOUND MARKaKATAKANA ITERATION MARK",
      "bVOICED ITERATION MARKbDIGRAPH KOTO"]⟩,
    ⟨0x3105, ["aBOPOMOFO LETTER BcPcMcFcDcTcNcLcGcKcHcJcQcXcZHcCHcSHcRcZcCcScAcOcEcEHcAIcEIcAU",
      "cOUcANcENcANGcENGcERcIcUcIUcVcNGcGNcIHcO WITH DOT ABOVEcNN"]⟩,
    ⟨0x3131, ["aHANGUL LETTER KIYEOKcSSANGKIYEOKcKIYEOK-SIOScNIEUNcNIEUN-CIEUCcNIEUN-HIEUH",
      "cTIKEUTcSSANGTIKEUTcRIEULcRIEUL-KIYEOKcRIEUL-MIEUMcRIEUL-PIEUPcRIEUL-SIOScRIEUL-THIEUTH",
      "cRIEUL-PHIEUPHcRIEUL-HIEUHcMIEUMcPIEUPcSSANGPIEUPcPIEUP-SIOScSIOScSSANGSIOScIEUNGcCIEUC",
      "cSSANGCIEUCcCHIEUCHcKHIEUKHcTHIEUTHcPHIEUPHcHIEUHcAcAEcYAcYAEcEOcEcYEOcYEcOcWAcWAEcOE",
      "cYOcUcWEOcWEcWIcYUcEUcYIcIbFILLERbLETTER SSANGNIEUNcNIEUN-TIKEUTcNIEUN-SIOS",
      "cNIEUN-PANSIOScRIEUL-KIYEOK-SIOScRIEUL-TIKEUTcRIEUL-PIEUP-SIOScRIEUL-PANSIOS",
      "cRIEUL-YEORINHIEUHcMIEUM-PIEUPcMIEUM-SIOScMIEUM-PANSIOScKAPYEOUNMIEUMcPIEUP-KIYEOK",
      "cPIEUP-TIKEUTcPIEUP-SIOS-KIYEOKcPIEUP-SIOS-TIKEUTcPIEUP-CIEUCcPIEUP-THIEUTH",
      "cKAPYEOUNPIEUPcKAPYEOUNSSANGPIEUPcSIOS-KIYEOKcSIOS-NIEUNcSIOS-TIKEUTcSIOS-PIEUP",
      "cSIOS-CIEUCcPANSIOScSSANGIEUNGcYESIEUNGcYESIEUNG-SIOScYESIEUNG-PANSIOScKAPYEOUNPHIEUPH",
      "cSSANGHIEUHcYEORINHIEUHcYO-YAcYO-YAEcYO-IcYU-YEOcYU-YEcYU-IcARAEAcARAEAE"]⟩,
    ⟨0x3190, ["aIDEOGRAPHIC ANNOTATION LINKING MARKcREVERSE MARKcONE MARKcTWO MARKcTHREE MARK",
      "cFOUR MARKcTOP MARKcMIDDLE MARKcBOTTOM MARKcFIRST MARKcSECOND MARKcTHIRD MARK",
      "cFOURTH MARKcHEAVEN MARKcEARTH MARKcMAN MARKaBOPOMOFO LETTER BUcZIcJIcGUcEEcENNcOOcONN",
      "cIRcANNcINNcUNNcIMcNGGcAINNcAUNNcAMcOMcONGcINNNbFINAL LETTER PdTdKdHbLETTER GHcLHcZY",
      "bFINAL LETTER GbLETTER GWcKWcOEcAHaCJK STROKE TcWGcXGcBXGcSWcHZZcHZGcHPcHZWGcSZWGcHZT",
      "cHZZPcHPWGcHZWcHZZZcNcHcScPcSPcDcHZcHGcSZcSWZcSTcSGcPDcPZcTNcSZZcSWGcHXWGcHZZZGcPGcQ"]⟩,
    ⟨0x31f0, ["aKATAKANA LETTER SMALL KUdSIdSUdTOdNUdHAdHIdHUdHEdHOdMUdRAdRIdRUdREdRO",
      "aPARENTHESIZED HANGUL KIYEOKcNIEUNcTIKEUTcRIEULcMIEUMcPIEUPcSIOScIEUNGcCIEUCcCHIEUCH",
      "cKHIEUKHcTHIEUTHcPHIEUPHcHIEUHcKIYEOK AcNIEUN AcTIKEUT AcRIEUL AcMIEUM AcPIEUP AcSIOS A",
      "cIEUNG AcCIEUC AcCHIEUCH AcKHIEUKH AcTHIEUTH AcPHIEUPH AcHIEUH AcCIEUC U",
      "bKOREAN CHARACTER OJEONdO HU"]⟩]

def namesFrom3220 : List NameRun :=
  [⟨0x3220, ["aPARENTHESIZED IDEOGRAPH ONEcTWOcTHREEcFOURcFIVEcSIXcSEVENcEIGHTcNINEcTENcMOON",
      "cFIREcWATERcWOODcMETALcEARTHcSUNcSTOCKcHAVEcSOCIETYcNAMEcSPECIALcFINANCIAL",
      "cCONGRATULATIONcLABORcREPRESENTcCALLcSTUDYcSUPERVISEcENTERPRISEcRESOURCEcALLIANCE",
      "cFESTIVALcRESTcSELFcREACHaCIRCLED IDEOGRAPH QUESTIONcKINDERGARTENcSCHOOLcKOTO",
      "bNUMBER TEN ON BLACK SQUAREcTWENTY ON BLACK SQUAREcTHIRTY ON BLACK SQUARE",
      "cFORTY ON BLACK SQUAREcFIFTY ON BLACK SQUAREcSIXTY ON BLACK SQUARE",
      "cSEVENTY ON BLACK SQUAREcEIGHTY ON BLACK SQUAREaPARTNERSHIP SIGN",
      "aCIRCLED NUMBER TWENTY ONEdTWOdTHREEdFOURdFIVEdSIXdSEVENdEIGHTdNINEcTHIRTYdONEdTWO",
      "dTHREEdFOURdFIVEbHANGUL KIYEOKcNIEUNcTIKEUTcRIEULcMIEUMcPIEUPcSIOScIEUNGcCIEUCcCHIEUCH",
      "cKHIEUKHcTHIEUTHcPHIEUPHcHIEUHcKIYEOK AcNIEUN AcTIKEUT AcRIEUL AcMIEUM AcPIEUP AcSIOS A",
      "cIEUNG AcCIEUC AcCHIEUCH AcKHIEUKH AcTHIEUTH AcPHIEUPH AcHIEUH A",
      "bKOREAN CHARACTER CHAMKOdJUEUIbHANGUL IEUNG UaKOREAN STANDARD SYMBOL",
      "aCIRCLED IDEOGRAPH ONEcTWOcTHREEcFOURcFIVEcSIXcSEVENcEIGHTcNINEcTENcMOONcFIREcWATER",
      "cWOODcMETALcEARTHcSUNcSTOCKcHAVEcSOCIETYcNAMEcSPECIALcFINANCIALcCONGRATULATIONcLABOR",
      "cSECRETcMALEcFEMALEcSUITABLEcEXCELLENTcPRINTcATTENTIONcITEMcRESTcCOPYcCORRECTcHIGH",
      "cCENTREcLOWcLEFTcRIGHTcMEDICINEcRELIGIONcSTUDYcSUPERVISEcENTERPRISEcRESOURCEcALLIANCE",
      "cNIGHTbNUMBER THIRTY SIXdSEVENdEIGHTdNINEcFORTYdONEdTWOdTHREEdFOURdFIVEdSIXdSEVENdEIGHT",
      "dNINEcFIFTYaIDEOGRAPHIC TELEGRAPH SYMBOL FOR JANUARYeFEBRUARYeMARCHeAPRILeMAYeJUNEeJULY",
      "eAUGUSTeSEPTEMBEReOCTOBEReNOVEMBEReDECEMBERaSQUARE HGbERGbEVaLIMITED LIABILITY SIGN",
      "aCIRCLED KATAKANA AcIcUcEcOcKAcKIcKUcKEcKOcSAcSIcSUcSEcSOcTAcTIcTUcTEcTOcNAcNIcNUcNEcNO",
      "cHAcHIcHUcHEcHOcMAcMIcMUcMEcMOcYAcYUcYOcRAcRIcRUcREcROcWAcWIcWEcWO",
      "aSQUARE ERA NAME REIWAbAPAATObARUHUAbANPEAbAARUbININGUbINTIbUONbESUKUUDObEEKAAbONSU",
      "bOOMUbKAIRIbKARATTObKARORIIbGARONbGANMAbGIGAbGINIIbKYURIIbGIRUDAAbKIRObKIROGURAMU",
      "bKIROMEETORUbKIROWATTObGURAMUbGURAMUTONbKURUZEIRObKUROONEbKEESUbKORUNAbKOOPObSAIKURU",
      "bSANTIIMUbSIRINGUbSENTIbSENTObDAASUbDESIbDORUbTONbNANObNOTTObHAITUbPAASENTObPAATU",
      "bBAARERUbPIASUTORUbPIKURUbPIKObBIRUbHUARADDObHUIITObBUSSYERUbHURANbHEKUTAARUbPESO",
      "bPENIHIbHERUTUbPENSUbPEEZIbBEETAbPOINTObBORUTObHONbPONDObHOORUbHOONbMAIKURObMAIRUbMAHHA",
      "bMARUKUbMANSYONbMIKURONbMIRIbMIRIBAARUbMEGAbMEGATONbMEETORUbYAADObYAARUbYUANbRITTORU",
      "bRIRAbRUPIIbRUUBURUbREMUbRENTOGENbWATTOaIDEOGRAPHIC TELEGRAPH SYMBOL FOR HOUR ZEROfONE",
      "fTWOfTHREEfFOURfFIVEfSIXfSEVENfEIGHTfNINEfTENfELEVENfTWELVEfTHIRTEENfFOURTEENfFIFTEEN",
      "fSIXTEENfSEVENTEENfEIGHTEENfNINETEENfTWENTYfTWENTY-ONEfTWENTY-TWOfTWENTY-THREE",
      "fTWENTY-FOURaSQUARE HPAbDAbAUbBARbOVbPCbDMcSQUAREDcCUBEDbIUbERA NAME HEISEIdSYOUWA",
      "dTAISYOUdMEIZIbCORPORATIONbPA AMPSbNAbMU AbMAbKAbKBbMBbGBbCALbKCALbPFbNFbMU FcGbMGbKG",
      "bHZbKHZbMHZbGHZbTHZbMU LbMLbDLbKLbFMbNMbMU MbMMbCMbKMbMM SQUAREDbCM SQUAREDbM SQUARED",
      "bKM SQUAREDbMM CUBEDbCM CUBEDbM CUBEDbKM CUBEDbM OVER SeSQUAREDbPAbKPAbMPAbGPAbRAD",
      "cOVER SeSQUAREDbPSbNSbMU SbMSbPVbNVbMU VbMVbKVbMV MEGAbPWbNWbMU WbMWbKWbMW MEGAbK OHM",
      "bM OHMbAMbBQbCCbCDbC OVER KGbCObDBbGYbHAbHPbINbKKbKM CAPITALbKTbLMbLNbLOGbLXbMB SMALL",
      "bMILbMOLbPHbPMbPPMbPRbSRbSVbWBbV OVER MbA OVER M",
      "aIDEOGRAPHIC TELEGRAPH SYMBOL FOR DAY ONEfTWOfTHREEfFOURfFIVEfSIXfSEVENfEIGHTfNINEfTEN",
      "fELEVENfTWELVEfTHIRTEENfFOURTEENfFIFTEENfSIXTEENfSEVENTEENfEIGHTEENfNINETEENfTWENTY",
      "fTWENTY-ONEfTWENTY-TWOfTWENTY-THREEfTWENTY-FOURfTWENTY-FIVEfTWENTY-SIXfTWENTY-SEVEN",
      "fTWENTY-EIGHTfTWENTY-NINEfTHIRTYfTHIRTY-ONEaSQUARE GAL"]⟩,
    ⟨0x4dc0, ["aHEXAGRAM FOR THE CREATIVE HEAVENdRECEPTIVE EARTHcDIFFICULTY AT THE BEGINNING",
      "cYOUTHFUL FOLLYcWAITINGcCONFLICTcTHE ARMYcHOLDING TOGETHERcSMALL TAMINGcTREADINGcPEACE",
      "cSTANDSTILLcFELLOWSHIPcGREAT POSSESSIONcMODESTYcENTHUSIASMcFOLLOWING",
      "cWORK ON THE DECAYEDcAPPROACHcCONTEMPLATIONcBITING THROUGHcGRACEcSPLITTING APARTcRETURN",
      "cINNOCENCEcGREAT TAMINGcMOUTH CORNERScGREAT PREPONDERANCEcTHE ABYSMAL WATER",
      "dCLINGING FIREcINFLUENCEcDURATIONcRETREATcGREAT POWERcPROGRESScDARKENING OF THE LIGHT",
      "cTHE FAMILYcOPPOSITIONcOBSTRUCTIONcDELIVERANCEcDECREASEcINCREASEcBREAKTHROUGH",
      "cCOMING TO MEETcGATHERING TOGETHERcPUSHING UPWARDcOPPRESSIONcTHE WELLcREVOLUTION",
      "cTHE CAULDRONdAROUSING THUNDERdKEEPING STILL MOUNTAINcDEVELOPMENTcTHE MARRYING MAIDEN",
      "cABUNDANCEcTHE WANDERERdGENTLE WINDdJOYOUS LAKEcDISPERSIONcLIMITATIONcINNER TRUTH",
      "cSMALL PREPONDERANCEcAFTER COMPLETIONcBEFORE COMPLETION"]⟩,
    ⟨0xa000, ["aYI SYLLABLE ITcIXcIcIPcIETcIEXcIEcIEPcATcAXcAcAPcUOXcUOcUOPcOTcOXcOcOPcEXcEcWU",
      "cBITcBIXcBIcBIPcBIETcBIEXcBIEcBIEPcBATcBAXcBAcBAPcBUOXcBUOcBUOPcBOTcBOXcBOcBOPcBEXcBE",
      "cBEPcBUTcBUXcBUcBUPcBURXcBURcBYTcBYXcBYcBYPcBYRXcBYRcPITcPIXcPIcPIPcPIEXcPIEcPIEPcPAT",
      "cPAXcPAcPAPcPUOXcPUOcPUOPcPOTcPOXcPOcPOPcPUTcPUXcPUcPUPcPURXcPURcPYTcPYXcPYcPYPcPYRX",
      "cPYRcBBITcBBIXcBBIcBBIPcBBIETcBBIEXcBBIEcBBIEPcBBATcBBAXcBBAcBBAPcBBUOXcBBUOcBBUOPcBBOT",
      "cBBOXcBBOcBBOPcBBEXcBBEcBBEPcBBUTcBBUXcBBUcBBUPcBBURXcBBURcBBYTcBBYXcBBYcBBYPcNBITcNBIX",
      "cNBIcNBIPcNBIEXcNBIEcNBIEPcNBATcNBAXcNBAcNBAPcNBOTcNBOXcNBOcNBOPcNBUTcNBUXcNBUcNBUP",
      "cNBURXcNBURcNBYTcNBYXcNBYcNBYPcNBYRXcNBYRcHMITcHMIXcHMIcHMIPcHMIEXcHMIEcHMIEPcHMATcHMAX",
      "cHMAcHMAPcHMUOXcHMUOcHMUOPcHMOTcHMOXcHMOcHMOPcHMUTcHMUXcHMUcHMUPcHMURXcHMURcHMYXcHMY",
      "cHMYPcHMYRXcHMYRcMITcMIXcMIcMIPcMIEXcMIEcMIEPcMATcMAXcMAcMAPcMUOTcMUOXcMUOcMUOPcMOTcMOX",
      "cMOcMOPcMEXcMEcMUTcMUXcMUcMUPcMURXcMURcMYTcMYXcMYcMYPcFITcFIXcFIcFIPcFATcFAXcFAcFAPcFOX",
      "cFOcFOPcFUTcFUXcFUcFUPcFURXcFURcFYTcFYXcFYcFYPcVITcVIXcVIcVIPcVIETcVIEXcVIEcVIEPcVAT",
      "cVAXcVAcVAPcVOTcVOXcVOcVOPcVEXcVEPcVUTcVUXcVUcVUPcVURXcVURcVYTcVYXcVYcVYPcVYRXcVYRcDIT",
      "cDIXcDIcDIPcDIEXcDIEcDIEPcDATcDAXcDAcDAPcDUOXcDUOcDOTcDOXcDOcDOPcDEXcDEcDEPcDUTcDUXcDU",
      "cDUPcDURXcDURcTITcTIXcTIcTIPcTIEXcTIEcTIEPcTATcTAXcTAcTAPcTUOTcTUOXcTUOcTUOPcTOTcTOXcTO",
      "cTOPcTEXcTEcTEPcTUTcTUXcTUcTUPcTURXcTURcDDITcDDIXcDDIcDDIPcDDIEXcDDIEcDDIEPcDDATcDDAX",
      "cDDAcDDAPcDDUOXcDDUOcDDUOPcDDOTcDDOXcDDOcDDOPcDDEXcDDEcDDEPcDDUTcDDUXcDDUcDDUPcDDURX",
      "cDDURcNDITcNDIXcNDIcNDIPcNDIEXcNDIEcNDATcNDAXcNDAcNDAPcNDOTcNDOXcNDOcNDOPcNDEXcNDEcNDEP",
      "cNDUTcNDUXcNDUcNDUPcNDURXcNDURcHNITcHNIXcHNIcHNIPcHNIETcHNIEXcHNIEcHNIEPcHNATcHNAXcHNA",
      "cHNAPcHNUOXcHNUOcHNOTcHNOXcHNOPcHNEXcHNEcHNEPcHNUTcNITcNIXcNIcNIPcNIEXcNIEcNIEPcNAXcNA",
      "cNAPcNUOXcNUOcNUOPcNOTcNOXcNOcNOPcNEXcNEcNEPcNUTcNUXcNUcNUPcNURXcNURcHLITcHLIXcHLIcHLIP",
      "cHLIEXcHLIEcHLIEPcHLATcHLAXcHLAcHLAPcHLUOXcHLUOcHLUOPcHLOXcHLOcHLOPcHLEXcHLEcHLEPcHLUT",
      "cHLUXcHLUcHLUPcHLURXcHLURcHLYTcHLYXcHLYcHLYPcHLYRXcHLYRcLITcLIXcLIcLIPcLIETcLIEXcLIE",
      "cLIEPcLATcLAXcLAcLAPcLUOTcLUOXcLUOcLUOPcLOTcLOXcLOcLOPcLEXcLEcLEPcLUTcLUXcLUcLUPcLURX",
      "cLURcLYTcLYXcLYcLYPcLYRXcLYRcGITcGIXcGIcGIPcGIETcGIEXcGIEcGIEPcGATcGAXcGAcGAPcGUOTcGUOX",
      "cGUOcGUOPcGOTcGOXcGOcGOPcGETcGEXcGEcGEPcGUTcGUXcGUcGUPcGURXcGURcKITcKIXcKIcKIPcKIEXcKIE",
      "cKIEPcKATcKAXcKAcKAPcKUOXcKUOcKUOPcKOTcKOXcKOcKOPcKETcKEXcKEcKEPcKUTcKUXcKUcKUPcKURX",
      "cKURcGGITcGGIXcGGIcGGIEXcGGIEcGGIEPcGGATcGGAXcGGAcGGAPcGGUOTcGGUOXcGGUOcGGUOPcGGOTcGGOX",
      "cGGOcGGOPcGGETcGGEXcGGEcGGEPcGGUTcGGUXcGGUcGGUPcGGURXcGGURcMGIEXcMGIEcMGATcMGAXcMGA",
      "cMGAPcMGUOXcMGUOcMGUOPcMGOTcMGOXcMGOcMGOPcMGEXcMGEcMGEPcMGUTcMGUXcMGUcMGUPcMGURXcMGUR",
      "cHXITcHXIXcHXIcHXIPcHXIETcHXIEXcHXIEcHXIEPcHXATcHXAXcHXAcHXAPcHXUOTcHXUOXcHXUOcHXUOP",
      "cHXOTcHXOXcHXOcHXOPcHXEXcHXEcHXEPcNGIEXcNGIEcNGIEPcNGATcNGAXcNGAcNGAPcNGUOTcNGUOXcNGUO",
      "cNGOTcNGOXcNGOcNGOPcNGEXcNGEcNGEPcHITcHIEXcHIEcHATcHAXcHAcHAPcHUOTcHUOXcHUOcHUOPcHOT",
      "cHOXcHOcHOPcHEXcHEcHEPcWATcWAXcWAcWAPcWUOXcWUOcWUOPcWOXcWOcWOPcWEXcWEcWEPcZITcZIXcZI",
      "cZIPcZIEXcZIEcZIEPcZATcZAXcZAcZAPcZUOXcZUOcZUOPcZOTcZOXcZOcZOPcZEXcZEcZEPcZUTcZUXcZU",
      "cZUPcZURXcZURcZYTcZYXcZYcZYPcZYRXcZYRcCITcCIXcCIcCIPcCIETcCIEXcCIEcCIEPcCATcCAXcCAcCAP",
      "cCUOXcCUOcCUOPcCOTcCOXcCOcCOPcCEXcCEcCEPcCUTcCUXcCUcCUPcCURXcCURcCYTcCYXcCYcCYPcCYRX",
      "cCYRcZZITcZZIXcZZIcZZIPcZZIETcZZIEXcZZIEcZZIEPcZZATcZZAXcZZAcZZAPcZZOXcZZOcZZOPcZZEX",
      "cZZEcZZEPcZZUXcZZUcZZUPcZZURXcZZURcZZYTcZZYXcZZYcZZYPcZZYRXcZZYRcNZITcNZIXcNZIcNZIP",
      "cNZIEXcNZIEcNZIEPcNZATcNZAXcNZAcNZAPcNZUOXcNZUOcNZOXcNZOPcNZEXcNZEcNZUXcNZUcNZUPcNZURX",
      "cNZURcNZYTcNZYXcNZYcNZYPcNZYRXcNZYRcSITcSIXcSIcSIPcSIEXcSIEcSIEPcSATcSAXcSAcSAPcSUOX",
      "cSUOcSUOPcSOTcSOXcSOcSOPcSEXcSEcSEPcSUTcSUXcSUcSUPcSURXcSURcSYTcSYXcSYcSYPcSYRXcSYR",
      "cSSITcSSIXcSSIcSSIPcSSIEXcSSIEcSSIEPcSSATcSSAXcSSAcSSAPcSSOTcSSOXcSSOcSSOPcSSEXcSSE",
      "cSSEPcSSUTcSSUXcSSUcSSUPcSSYTcSSYXcSSYcSSYPcSSYRXcSSYRcZHATcZHAXcZHAcZHAPcZHUOXcZHUO",
      "cZHUOPcZHOTcZHOXcZHOcZHOPcZHETcZHEXcZHEcZHEPcZHUTcZHUXcZHUcZHUPcZHURXcZHURcZHYTcZHYX",
      "cZHYcZHYPcZHYRXcZHYRcCHATcCHAXcCHAcCHAPcCHUOTcCHUOXcCHUOcCHUOPcCHOTcCHOXcCHOcCHOPcCHET",
      "cCHEXcCHEcCHEPcCHUXcCHUcCHUPcCHURXcCHURcCHYTcCHYXcCHYcCHYPcCHYRXcCHYRcRRAXcRRAcRRUOX",
      "cRRUOcRROTcRROXcRROcRROPcRRETcRREXcRREcRREPcRRUTcRRUXcRRUcRRUPcRRURXcRRURcRRYTcRRYXcRRY",
      "cRRYPcRRYRXcRRYRcNRATcNRAXcNRAcNRAPcNROXcNROcNROPcNRETcNREXcNREcNREPcNRUTcNRUXcNRUcNRUP",
      "cNRURXcNRURcNRYTcNRYXcNRYcNRYPcNRYRXcNRYRcSHATcSHAXcSHAcSHAPcSHUOXcSHUOcSHUOPcSHOTcSHOX",
      "cSHOcSHOPcSHETcSHEXcSHEcSHEPcSHUTcSHUXcSHUcSHUPcSHURXcSHURcSHYTcSHYXcSHYcSHYPcSHYRX",
      "cSHYRcRATcRAXcRAcRAPcRUOXcRUOcRUOPcROTcROXcROcROPcREXcREcREPcRUTcRUXcRUcRUPcRURXcRUR",
      "cRYTcRYXcRYcRYPcRYRXcRYRcJITcJIXcJIcJIPcJIETcJIEXcJIEcJIEPcJUOTcJUOXcJUOcJUOPcJOTcJOX",
      "cJOcJOPcJUTcJUXcJUcJUPcJURXcJURcJYTcJYXcJYcJYPcJYRXcJYRcQITcQIXcQIcQIPcQIETcQIEXcQIE",
      "cQIEPcQUOTcQUOXcQUOcQUOPcQOTcQOXcQOcQOPcQUTcQUXcQUcQUPcQURXcQURcQYTcQYXcQYcQYPcQYRXcQYR",
      "cJJITcJJIXcJJIcJJIPcJJIETcJJIEXcJJIEcJJIEPcJJUOXcJJUOcJJUOPcJJOTcJJOXcJJOcJJOPcJJUT",
      "cJJUXcJJUcJJUPcJJURXcJJURcJJYTcJJYXcJJYcJJYPcNJITcNJIXcNJIcNJIPcNJIETcNJIEXcNJIEcNJIEP",
      "cNJUOXcNJUOcNJOTcNJOXcNJOcNJOPcNJUXcNJUcNJUPcNJURXcNJURcNJYTcNJYXcNJYcNJYPcNJYRXcNJYR",
      "cNYITcNYIXcNYIcNYIPcNYIETcNYIEXcNYIEcNYIEPcNYUOXcNYUOcNYUOPcNYOTcNYOXcNYOcNYOPcNYUT",
      "cNYUXcNYUcNYUPcXITcXIXcXIcXIPcXIETcXIEXcXIEcXIEPcXUOXcXUOcXOTcXOXcXOcXOPcXYTcXYXcXYcXYP",
      "cXYRXcXYRcYITcYIXcYIcYIPcYIETcYIEXcYIEcYIEPcYUOTcYUOXcYUOcYUOPcYOTcYOXcYOcYOPcYUTcYUX",
      "cYUcYUPcYURXcYURcYYTcYYXcYYcYYPcYYRXcYYR"]⟩,
    ⟨0xa490, ["aYI RADICAL QOTcLIcKITcNYIPcCYPcSSIcGGOPcGEPcMIcHXITcLYRcBBUTcMOPcYOcPUTcHXUOcTAT",
      "cGAcZUPcCYTcDDURcBURcGGUOcNYOPcTUcOPcJJUTcZOTcPYTcHMOcYITcVURcSHYcVEPcZAcJOcNZUPcJJY",
      "cGOTcJJIEcWOcDUcSHURcLIEcCYcCUOPcCIPcHXOPcSHATcZURcSHOPcCHEcZZIETcNBIEcKE"]⟩]

def namesFromA4D0 : List NameRun :=
  [⟨0xa4d0, ["aLISU LETTER BAcPAcPHAcDAcTAcTHAcGAcKAcKHAcJAcCAcCHAcDZAcTSAcTSHAcMAcNAcLAcSAcZHA",
      "cZAcNGAcHAcXAcHHAcFAcWAcSHAcYAcGHAcAcAEcEcEUcIcOcUcUEcUHcOEcTONE MYA TIdNA POdMYA CYA",
      "eBOeNAeJEUbPUNCTUATION COMMAcFULL STOPaVAI SYLLABLE EEcEENcHEEcWEEcWEENcPEEcBHEEcBEE",
      "cMBEEcKPEEcMGBEEcGBEEcFEEcVEEcTEEcTHEEcDHEEcDHHEEcLEEcREEcDEEcNDEEcSEEcSHEEcZEEcZHEE",
      "cCEEcJEEcNJEEcYEEcKEEcNGGEEcGEEcMEEcNEEcNYEEcIcINcHIcHINcWIcWINcPIcBHIcBIcMBIcKPIcMGBI",
      "cGBIcFIcVIcTIcTHIcDHIcDHHIcLIcRIcDIcNDIcSIcSHIcZIcZHIcCIcJIcNJIcYIcKIcNGGIcGIcMIcNIcNYI",
      "cAcANcNGANcHAcHANcWAcWANcPAcBHAcBAcMBAcKPAcKPANcMGBAcGBAcFAcVAcTAcTHAcDHAcDHHAcLAcRAcDA",
      "cNDAcSAcSHAcZAcZHAcCAcJAcNJAcYAcKAcKANcNGGAcGAcMAcNAcNYAcOOcOONcHOOcWOOcWOONcPOOcBHOO",
      "cBOOcMBOOcKPOOcMGBOOcGBOOcFOOcVOOcTOOcTHOOcDHOOcDHHOOcLOOcROOcDOOcNDOOcSOOcSHOOcZOO",
      "cZHOOcCOOcJOOcNJOOcYOOcKOOcNGGOOcGOOcMOOcNOOcNYOOcUcUNcHUcHUNcWUcWUNcPUcBHUcBUcMBUcKPU",
      "cMGBUcGBUcFUcVUcTUcTHUcDHUcDHHUcLUcRUcDUcNDUcSUcSHUcZUcZHUcCUcJUcNJUcYUcKUcNGGUcGUcMU",
      "cNUcNYUcOcONcNGONcHOcHONcWOcWONcPOcBHOcBOcMBOcKPOcMGBOcGBOcGBONcFOcVOcTOcTHOcDHOcDHHO",
      "cLOcROcDOcNDOcSOcSHOcZOcZHOcCOcJOcNJOcYOcKOcNGGOcGOcMOcNOcNYOcEcENcNGENcHEcHENcWEcWEN",
      "cPEcBHEcBEcMBEcKPEcKPENcMGBEcGBEcGBENcFEcVEcTEcTHEcDHEcDHHEcLEcREcDEcNDEcSEcSHEcZEcZHE",
      "cCEcJEcNJEcYEcKEcNGGEcNGGENcGEcGENcMEcNEcNYEcNGcLENGTHENERbCOMMAbFULL STOP",
      "bQUESTION MARKbSYLLABLE NDOLE FAdKAdSOObSYMBOL FEENGcKEENGcTINGcNIIcBANGcFAAcTAAcDANG",
      "cDOONGcKUNGcTONGcDO-OcJONGbDIGIT ZEROcONEcTWOcTHREEcFOURcFIVEcSIXcSEVENcEIGHTcNINE",
      "bSYLLABLE NDOLE MAdDO"]⟩,
    ⟨0xa640, ["aCYRILLIC CAPITAL LETTER ZEMLYAbSMALL LETTER ZEMLYAbCAPITAL LETTER DZELO",
      "bSMALL LETTER DZELObCAPITAL LETTER REVERSED DZEbSMALL LETTER REVERSED DZE",
      "bCAPITAL LETTER IOTAbSMALL LETTER IOTAbCAPITAL LETTER DJERVbSMALL LETTER DJERV",
      "bCAPITAL LETTER MONOGRAPH UKbSMALL LETTER MONOGRAPH UKbCAPITAL LETTER BROAD OMEGA",
      "bSMALL LETTER BROAD OMEGAbCAPITAL LETTER NEUTRAL YERbSMALL LETTER NEUTRAL YER",
      "bCAPITAL LETTER YERU WITH BACK YERbSMALL LETTER YERU WITH BACK YER",
      "bCAPITAL LETTER IOTIFIED YATbSMALL LETTER IOTIFIED YATbCAPITAL LETTER REVERSED YU",
      "bSMALL LETTER REVERSED YUbCAPITAL LETTER IOTIFIED AbSMALL LETTER IOTIFIED A",
      "bCAPITAL LETTER CLOSED LITTLE YUSbSMALL LETTER CLOSED LITTLE YUS",
      "bCAPITAL LETTER BLENDED YUSbSMALL LETTER BLENDED YUS",
      "bCAPITAL LETTER IOTIFIED CLOSED LITTLE YUSbSMALL LETTER IOTIFIED CLOSED LITTLE YUS",
      "bCAPITAL LETTER YNbSMALL LETTER YNbCAPITAL LETTER REVERSED TSE",
      "bSMALL LETTER REVERSED TSEbCAPITAL LETTER SOFT DEbSMALL LETTER SOFT DE",
      "bCAPITAL LETTER SOFT ELbSMALL LETTER SOFT ELbCAPITAL LETTER SOFT EM",
      "bSMALL LETTER SOFT EMbCAPITAL LETTER MONOCULAR ObSMALL LETTER MONOCULAR O",
      "bCAPITAL LETTER BINOCULAR ObSMALL LETTER BINOCULAR ObCAPITAL LETTER DOUBLE MONOCULAR O",
      "bSMALL LETTER DOUBLE MONOCULAR ObLETTER MULTIOCULAR OaCOMBINING CYRILLIC VZMET",
      "cTEN MILLIONS SIGNcHUNDRED MILLIONS SIGNcTHOUSAND MILLIONS SIGNaSLAVONIC ASTERISK",
      "aCOMBINING CYRILLIC LETTER UKRAINIAN IEdIdYIdUdHARD SIGNdYERUdSOFT SIGNdOMEGAcKAVYKA",
      "cPAYEROKaCYRILLIC KAVYKAbPAYEROKbCAPITAL LETTER DWEbSMALL LETTER DWE",
      "bCAPITAL LETTER DZWEbSMALL LETTER DZWEbCAPITAL LETTER ZHWEbSMALL LETTER ZHWE",
      "bCAPITAL LETTER CCHEbSMALL LETTER CCHEbCAPITAL LETTER DZZEbSMALL LETTER DZZE",
      "bCAPITAL LETTER TE WITH MIDDLE HOOKbSMALL LETTER TE WITH MIDDLE HOOKbCAPITAL LETTER TWE",
      "bSMALL LETTER TWEbCAPITAL LETTER TSWEbSMALL LETTER TSWEbCAPITAL LETTER TSSE",
      "bSMALL LETTER TSSEbCAPITAL LETTER TCHEbSMALL LETTER TCHEbCAPITAL LETTER HWE",
      "bSMALL LETTER HWEbCAPITAL LETTER SHWEbSMALL LETTER SHWEbCAPITAL LETTER DOUBLE O",
      "bSMALL LETTER DOUBLE ObCAPITAL LETTER CROSSED ObSMALL LETTER CROSSED O",
      "aMODIFIER LETTER CYRILLIC HARD SIGNdSOFT SIGNaCOMBINING CYRILLIC LETTER EFdIOTIFIED E",
      "aBAMUM LETTER AcKAcUcKUcEEcREEcTAEcOcNYIcIcLAcPAcRIIcRIEEcLEEEEcMEEEEcTAAcNDAAcNJAEMcM",
      "cSUUcMUcSHIIcSIcSHEUXcSEUXcKYEEcKETcNUAEcNUcNJUAEcYOQcSHUcYUQcYAcNSHAcKEUXcPEUXcNJEE",
      "cNTEEcPUEcWUEcPEEcFEEcRUcLUcMIcNIcREUXcRAEcKENcNGKWAENcNGGAcNGAcSHOcPUAEcFUcFOMcWAcNA",
      "cLIcPIcLOQcKOcMBENcRENcMENcMAcTIcKIcMOcMBAAcTETcKPAcTENcNTUUcSAMBAcFAAMAEcKOVUUcKOGHOM",
      "bCOMBINING MARK KOQNDONdTUKWENTISbNJAEMLIbFULL STOPbCOLONbCOMMAbSEMICOLONbQUESTION MARK"]⟩,
    ⟨0xa700, ["aMODIFIER LETTER CHINESE TONE YIN PINGeYANG PINGeYIN SHANGeYANG SHANGeYIN QU",
      "eYANG QUeYIN RUeYANG RUcEXTRA-HIGH DOTTED TONE BARcHIGH DOTTED TONE BAR",
      "cMID DOTTED TONE BARcLOW DOTTED TONE BARcEXTRA-LOW DOTTED TONE BAR",
      "cEXTRA-HIGH DOTTED LEFT-STEM TONE BARcHIGH DOTTED LEFT-STEM TONE BAR",
      "cMID DOTTED LEFT-STEM TONE BARcLOW DOTTED LEFT-STEM TONE BAR",
      "cEXTRA-LOW DOTTED LEFT-STEM TONE BARcEXTRA-HIGH LEFT-STEM TONE BAR",
      "cHIGH LEFT-STEM TONE BARcMID LEFT-STEM TONE BARcLOW LEFT-STEM TONE BAR",
      "cEXTRA-LOW LEFT-STEM TONE BARcDOT VERTICAL BARdSLASHdHORIZONTAL BAR",
      "cLOWER RIGHT CORNER ANGLEcRAISED UP ARROWdDOWN ARROWdEXCLAMATION MARK",
      "dINVERTED EXCLAMATION MARKcLOW INVERTED EXCLAMATION MARKcSTRESS AND HIGH TONEeLOW TONE",
      "aLATIN CAPITAL LETTER EGYPTOLOGICAL ALEFbSMALL LETTER EGYPTOLOGICAL ALEF",
      "bCAPITAL LETTER EGYPTOLOGICAL AINbSMALL LETTER EGYPTOLOGICAL AINbCAPITAL LETTER HENG",
      "bSMALL LETTER HENGbCAPITAL LETTER TZbSMALL LETTER TZbCAPITAL LETTER TRESILLO",
      "bSMALL LETTER TRESILLObCAPITAL LETTER CUATRILLObSMALL LETTER CUATRILLO",
      "bCAPITAL LETTER CUATRILLO WITH COMMAbSMALL LETTER CUATRILLO WITH COMMA",
      "bLETTER SMALL CAPITAL FeSbCAPITAL LETTER AAbSMALL LETTER AAbCAPITAL LETTER AO",
      "bSMALL LETTER AObCAPITAL LETTER AUbSMALL LETTER AUbCAPITAL LETTER AVbSMALL LETTER AV",
      "bCAPITAL LETTER AV WITH HORIZONTAL BARbSMALL LETTER AV WITH HORIZONTAL BAR",
      "bCAPITAL LETTER AYbSMALL LETTER AYbCAPITAL LETTER REVERSED C WITH DOT",
      "bSMALL LETTER REVERSED C WITH DOTbCAPITAL LETTER K WITH STROKE",
      "bSMALL LETTER K WITH STROKEbCAPITAL LETTER K WITH DIAGONAL STROKE",
      "bSMALL LETTER K WITH DIAGONAL STROKEbCAPITAL LETTER K WITH STROKE AND DIAGONAL STROKE",
      "bSMALL LETTER K WITH STROKE AND DIAGONAL STROKEbCAPITAL LETTER BROKEN L",
      "bSMALL LETTER BROKEN LbCAPITAL LETTER L WITH HIGH STROKE",
      "bSMALL LETTER L WITH HIGH STROKEbCAPITAL LETTER O WITH LONG STROKE OVERLAY",
      "bSMALL LETTER O WITH LONG STROKE OVERLAYbCAPITAL LETTER O WITH LOOP",
      "bSMALL LETTER O WITH LOOPbCAPITAL LETTER OObSMALL LETTER OO",
      "bCAPITAL LETTER P WITH STROKE THROUGH DESCENDER",
      "bSMALL LETTER P WITH STROKE THROUGH DESCENDERbCAPITAL LETTER P WITH FLOURISH",
      "bSMALL LETTER P WITH FLOURISHbCAPITAL LETTER P WITH SQUIRREL TAIL",
      "bSMALL LETTER P WITH SQUIRREL TAILbCAPITAL LETTER Q WITH STROKE THROUGH DESCENDER",
      "bSMALL LETTER Q WITH STROKE THROUGH DESCENDERbCAPITAL LETTER Q WITH DIAGONAL STROKE",
      "bSMALL LETTER Q WITH DIAGONAL STROKEbCAPITAL LETTER R ROTUNDAbSMALL LETTER R ROTUNDA",
      "bCAPITAL LETTER RUM ROTUNDAbSMALL LETTER RUM ROTUNDA",
      "bCAPITAL LETTER V WITH DIAGONAL STROKEbSMALL LETTER V WITH DIAGONAL STROKE",
      "bCAPITAL LETTER VYbSMALL LETTER VYbCAPITAL LETTER VISIGOTHIC Z",
      "bSMALL LETTER VISIGOTHIC ZbCAPITAL LETTER THORN WITH STROKE",
      "bSMALL LETTER THORN WITH STROKEbCAPITAL LETTER THORN WITH STROKE THROUGH DESCENDER",
      "bSMALL LETTER THORN WITH STROKE THROUGH DESCENDERbCAPITAL LETTER VENDbSMALL LETTER VEND",
      "bCAPITAL LETTER ETbSMALL LETTER ETbCAPITAL LETTER ISbSMALL LETTER ISbCAPITAL LETTER CON",
      "bSMALL LETTER CONaMODIFIER LETTER USaLATIN SMALL LETTER DUMdLUMdMUMdNUMdRUM",
      "bLETTER SMALL CAPITAL RUMbSMALL LETTER TUMdUMbCAPITAL LETTER INSULAR D",
      "bSMALL LETTER INSULAR DbCAPITAL LETTER INSULAR FbSMALL LETTER INSULAR F",
      "bCAPITAL LETTER INSULAR GdTURNED INSULAR GbSMALL LETTER TURNED INSULAR G",
      "bCAPITAL LETTER TURNED LbSMALL LETTER TURNED LbCAPITAL LETTER INSULAR R",
      "bSMALL LETTER INSULAR RbCAPITAL LETTER INSULAR SbSMALL LETTER INSULAR S",
      "bCAPITAL LETTER INSULAR TbSMALL LETTER INSULAR TaMODIFIER LETTER LOW CIRCUMFLEX ACCENT",
      "cCOLONcSHORT EQUALS SIGNaLATIN CAPITAL LETTER SALTILLObSMALL LETTER SALTILLO",
      "bCAPITAL LETTER TURNED HbSMALL LETTER L WITH RETROFLEX HOOK AND BELT",
      "bLETTER SINOLOGICAL DOTbCAPITAL LETTER N WITH DESCENDERbSMALL LETTER N WITH DESCENDER",
      "bCAPITAL LETTER C WITH BARbSMALL LETTER C WITH BARfPALATAL HOOKdH WITH PALATAL HOOK",
      "bCAPITAL LETTER B WITH FLOURISHbSMALL LETTER B WITH FLOURISH",
      "bCAPITAL LETTER F WITH STROKEbSMALL LETTER F WITH STROKEbCAPITAL LETTER VOLAPUK AE",
      "bSMALL LETTER VOLAPUK AEbCAPITAL LETTER VOLAPUK OEbSMALL LETTER VOLAPUK OE",
      "bCAPITAL LETTER VOLAPUK UEbSMALL LETTER VOLAPUK UEbCAPITAL LETTER G WITH OBLIQUE STROKE",
      "bSMALL LETTER G WITH OBLIQUE STROKEbCAPITAL LETTER K WITH OBLIQUE STROKE",
      "bSMALL LETTER K WITH OBLIQUE STROKEbCAPITAL LETTER N WITH OBLIQUE STROKE",
      "bSMALL LETTER N WITH OBLIQUE STROKEbCAPITAL LETTER R WITH OBLIQUE STROKE",
      "bSMALL LETTER R WITH OBLIQUE STROKEbCAPITAL LETTER S WITH OBLIQUE STROKE",
      "bSMALL LETTER S WITH OBLIQUE STROKEbCAPITAL LETTER H WITH HOOKdREVERSED OPEN EdSCRIPT G",
      "dL WITH BELTdSMALL CAPITAL IbLETTER SMALL CAPITAL QbCAPITAL LETTER TURNED KeT",
      "dJ WITH CROSSED-TAILdCHIdBETAbSMALL LETTER BETAbCAPITAL LETTER OMEGAbSMALL LETTER OMEGA",
      "bCAPITAL LETTER U WITH STROKEbSMALL LETTER U WITH STROKEbCAPITAL LETTER GLOTTAL A",
      "bSMALL LETTER GLOTTAL AbCAPITAL LETTER GLOTTAL IbSMALL LETTER GLOTTAL I",
      "bCAPITAL LETTER GLOTTAL UbSMALL LETTER GLOTTAL UbCAPITAL LETTER OLD POLISH O",
      "bSMALL LETTER OLD POLISH ObCAPITAL LETTER ANGLICANA WbSMALL LETTER ANGLICANA W",
      "bCAPITAL LETTER C WITH PALATAL HOOKdS WITH HOOKdZ WITH PALATAL HOOK",
      "dD WITH SHORT STROKE OVERLAYbSMALL LETTER D WITH SHORT STROKE OVERLAY",
      "bCAPITAL LETTER S WITH SHORT STROKE OVERLAYbSMALL LETTER S WITH SHORT STROKE OVERLAY"]⟩]

def namesFromA7D0 : List NameRun :=
  [⟨0xa7d0, ["aLATIN CAPITAL LETTER CLOSED INSULAR GbSMALL LETTER CLOSED INSULAR G"]⟩,
    ⟨0xa7d3, ["aLATIN SMALL LETTER DOUBLE THORN"]⟩,
    ⟨0xa7d5, ["aLATIN SMALL LETTER DOUBLE WYNNbCAPITAL LETTER MIDDLE SCOTS S",
      "bSMALL LETTER MIDDLE SCOTS SbCAPITAL LETTER SIGMOID SbSMALL LETTER SIGMOID S"]⟩,
    ⟨0xa7f2, ["aMODIFIER LETTER CAPITAL CdFdQaLATIN CAPITAL LETTER REVERSED HALF H",
      "bSMALL LETTER REVERSED HALF HbEPIGRAPHIC LETTER SIDEWAYS I",
      "aMODIFIER LETTER CAPITAL H WITH STROKEcSMALL LIGATURE OE",
      "aLATIN LETTER SMALL CAPITAL TURNED MbEPIGRAPHIC LETTER REVERSED FePdINVERTED MdI LONGA",
      "dARCHAIC MaSYLOTI NAGRI LETTER AdIcSIGN DVISVARAcLETTER UdEdOcSIGN HASANTAcLETTER KO",
      "dKHOdGOdGHOcSIGN ANUSVARAcLETTER COdCHOdJOdJHOdTTOdTTHOdDDOdDDHOdTOdTHOdDOdDHOdNOdPO",
      "dPHOdBOdBHOdMOdROdLOdRROdSOdHOcVOWEL SIGN AeIeUeEeOOcPOETRY MARK-1dMARK-2dMARK-3dMARK-4",
      "cSIGN ALTERNATE HASANTA"]⟩,
    ⟨0xa830, ["aNORTH INDIC FRACTION ONE QUARTEReHALFdTHREE QUARTERSdONE SIXTEENTHeEIGHTH",
      "dTHREE SIXTEENTHScQUARTER MARKcPLACEHOLDER MARKcRUPEE MARKcQUANTITY MARK"]⟩,
    ⟨0xa840, ["aPHAGS-PA LETTER KAcKHAcGAcNGAcCAcCHAcJAcNYAcTAcTHAcDAcNAcPAcPHAcBAcMAcTSAcTSHA",
      "cDZAcWAcZHAcZAcSMALL AcYAcRAcLAcSHAcSAcHAcAcIcUcEcOcQAcXAcFAcGGAcEEbSUBJOINED LETTER WA",
      "dYAbLETTER TTAcTTHAcDDAcNNAcALTERNATE YAcVOICELESS SHAcVOICED HAcASPIRATED FA",
      "bSUBJOINED LETTER RAbSUPERFIXED LETTER RAbLETTER CANDRABINDUbSINGLE HEAD MARK",
      "bDOUBLE HEAD MARKbMARK SHADcDOUBLE SHAD"]⟩,
    ⟨0xa880, ["aSAURASHTRA SIGN ANUSVARAcVISARGAbLETTER AcAAcIcIIcUcUUcVOCALIC RdRRdLdLLcEcEEcAI",
      "cOcOOcAUcKAcKHAcGAcGHAcNGAcCAcCHAcJAcJHAcNYAcTTAcTTHAcDDAcDDHAcNNAcTAcTHAcDAcDHAcNAcPA",
      "cPHAcBAcBHAcMAcYAcRAcLAcVAcSHAcSSAcSAcHAcLLAbCONSONANT SIGN HAARUbVOWEL SIGN AAdIdIIdU",
      "dUUdVOCALIC ReRReLeLLdEdEEdAIdOdOOdAUbSIGN VIRAMAcCANDRABINDU"]⟩,
    ⟨0xa8ce, ["aSAURASHTRA DANDAbDOUBLE DANDAbDIGIT ZEROcONEcTWOcTHREEcFOURcFIVEcSIXcSEVENcEIGHT",
      "cNINE"]⟩,
    ⟨0xa8e0, ["aCOMBINING DEVANAGARI DIGIT ZEROdONEdTWOdTHREEdFOURdFIVEdSIXdSEVENdEIGHTdNINE",
      "cLETTER AdUdKAdNAdPAdRAdVIcSIGN AVAGRAHAaDEVANAGARI SIGN SPACING CANDRABINDU",
      "cCANDRABINDU VIRAMAcDOUBLE CANDRABINDU VIRAMAcCANDRABINDU TWOdTHREEdAVAGRAHAcPUSHPIKA",
      "bGAP FILLERbCARETbHEADSTROKEbSIGN SIDDHAMbJAIN OMbLETTER AYbVOWEL SIGN AY",
      "aKAYAH LI DIGIT ZEROdONEdTWOdTHREEdFOURdFIVEdSIXdSEVENdEIGHTdNINEcLETTER KAdKHAdGAdNGA",
      "dSAdSHAdZAdNYAdTAdHTAdNAdPAdPHAdMAdDAdBAdRAdYAdLAdWAdTHAdHAdVAdCAdAdOEdIdOOcVOWEL UEdE",
      "dUdEEdOcTONE PLOPHUdCALYAePLOPHUcSIGN CWIdSHYAaREJANG LETTER KAcGAcNGAcTAcDAcNAcPAcBA",
      "cMAcCAcJAcNYAcSAcRAcLAcYAcWAcHAcMBAcNGGAcNDAcNYJAcAbVOWEL SIGN IdUdEdAIdOdAUdEUdEA",
      "bCONSONANT SIGN NGdNdRdHbVIRAMA"]⟩,
    ⟨0xa95f, ["aREJANG SECTION MARKaHANGUL CHOSEONG TIKEUT-MIEUMcTIKEUT-PIEUPcTIKEUT-SIOS",
      "cTIKEUT-CIEUCcRIEUL-KIYEOKcRIEUL-SSANGKIYEOKcRIEUL-TIKEUTcRIEUL-SSANGTIKEUTcRIEUL-MIEUM",
      "cRIEUL-PIEUPcRIEUL-SSANGPIEUPcRIEUL-KAPYEOUNPIEUPcRIEUL-SIOScRIEUL-CIEUCcRIEUL-KHIEUKH",
      "cMIEUM-KIYEOKcMIEUM-TIKEUTcMIEUM-SIOScPIEUP-SIOS-THIEUTHcPIEUP-KHIEUKHcPIEUP-HIEUH",
      "cSSANGSIOS-PIEUPcIEUNG-RIEULcIEUNG-HIEUHcSSANGCIEUC-HIEUHcSSANGTHIEUTHcPHIEUPH-HIEUH",
      "cHIEUH-SIOScSSANGYEORINHIEUH"]⟩,
    ⟨0xa980, ["aJAVANESE SIGN PANYANGGAcCECAKcLAYARcWIGNYANbLETTER AcI KAWIcIcIIcUcPA CEREK",
      "cNGA LELETeRASWADIcEcAIcOcKAdSASAKdMURDAcGAdMURDAcNGAcCAdMURDAcJAcNYA MURDA",
      "cJA MAHAPRANAcNYAcTTAdMAHAPRANAcDDAdMAHAPRANAcNA MURDAcTAdMURDAcDAdMAHAPRANAcNAcPA",
      "dMURDAcBAdMURDAcMAcYAcRAdAGUNGcLAcWAcSA MURDAdMAHAPRANAcSAcHAbSIGN CECAK TELU",
      "bVOWEL SIGN TARUNGdTOLONGdWULUeMELIKdSUKUeMENDUTdTALINGdDIRGA MUREdPEPET",
      "bCONSONANT SIGN KERETdPENGKALdCAKRAbPANGKONbLEFT RERENGGANbRIGHT RERENGGANbPADA ANDAP",
      "cMADYAcLUHURcWINDUcPANGKATcLINGSAcLUNGSIcADEGdADEGcPISELEHbTURNED PADA PISELEH"]⟩,
    ⟨0xa9cf, ["aJAVANESE PANGRANGKEPbDIGIT ZEROcONEcTWOcTHREEcFOURcFIVEcSIXcSEVENcEIGHTcNINE"]⟩,
    ⟨0xa9de, ["aJAVANESE PADA TIRTA TUMETEScISEN-ISENaMYANMAR LETTER SHAN GHAdCHAdJHAdNNAdBHA",
      "bSIGN SHAN SAWbMODIFIER LETTER SHAN REDUPLICATIONbLETTER TAI LAING NYAeFAeGAeGHAeJAeJHA",
      "eDDAeDDHAeNNAbTAI LAING DIGIT ZEROeONEeTWOeTHREEeFOUReFIVEeSIXeSEVENeEIGHTeNINE",
      "bLETTER TAI LAING LLAeDAeDHAeBAeBHA"]⟩,
    ⟨0xaa00, ["aCHAM LETTER AcIcUcEcAIcOcKAcKHAcGAcGHAcNGUEcNGAcCHAcCHHAcJAcJHAcNHUEcNHAcNHJAcTA",
      "cTHAcDAcDHAcNUEcNAcDDAcPAcPPAcPHAcBAcBHAcMUEcMAcBBAcYAcRAcLAcVAcSSAcSAcHAbVOWEL SIGN AA",
      "dIdIIdEIdUdOEdOdAIdAUdUEbCONSONANT SIGN YAdRAdLAdWA"]⟩,
    ⟨0xaa40, ["aCHAM LETTER FINAL KdGdNGbCONSONANT SIGN FINAL NGbLETTER FINAL CHdTdNdPdYdRdLdSS",
      "bCONSONANT SIGN FINAL MeH"]⟩,
    ⟨0xaa50, ["aCHAM DIGIT ZEROcONEcTWOcTHREEcFOURcFIVEcSIXcSEVENcEIGHTcNINE"]⟩,
    ⟨0xaa5c, ["aCHAM PUNCTUATION SPIRALcDANDAcDOUBLE DANDAcTRIPLE DANDAaMYANMAR LETTER KHAMTI GA",
      "dCAdCHAdJAdJHAdNYAdTTAdTTHAdDDAdDDHAdDHAdNAdSAdHAdHHAdFA",
      "bMODIFIER LETTER KHAMTI REDUPLICATIONbLETTER KHAMTI XAdZAdRAbLOGOGRAM KHAMTI OAYdQNdHM",
      "bSYMBOL AITON EXCLAMATIONdONEdTWObLETTER AITON RAbSIGN PAO KAREN TONEcTAI LAING TONE-2",
      "eTONE-5bLETTER SHWE PALAUNG CHAeSHAaTAI VIET LETTER LOW KOdHIGH KOdLOW KHOdHIGH KHO",
      "dLOW KHHOdHIGH KHHOdLOW GOdHIGH GOdLOW NGOdHIGH NGOdLOW COdHIGH COdLOW CHOdHIGH CHO",
      "dLOW SOdHIGH SOdLOW NYOdHIGH NYOdLOW DOdHIGH DOdLOW TOdHIGH TOdLOW THOdHIGH THOdLOW NO",
      "dHIGH NOdLOW BOdHIGH BOdLOW POdHIGH POdLOW PHOdHIGH PHOdLOW FOdHIGH FOdLOW MOdHIGH MO",
      "dLOW YOdHIGH YOdLOW ROdHIGH ROdLOW LOdHIGH LOdLOW VOdHIGH VOdLOW HOdHIGH HOdLOW O",
      "dHIGH OcMAI KANGcVOWEL AAdIdUEdUdEdOcMAI KHITcVOWEL IAdUEAdUAdAUEdAYdANdAMcTONE MAI EK",
      "eNUENGeTHOeSONG"]⟩,
    ⟨0xaadb, ["aTAI VIET SYMBOL KONdNUENGdSAMdHO HOIdKOI KOIaMEETEI MAYEK LETTER EdOdCHAdNYAdTTA",
      "dTTHAdDDAdDDHAdNNAdSHAdSSAcVOWEL SIGN IIeUUeAAIeAUeAAUcCHEIKHANcAHANG KHUDAMcANJI",
      "cSYLLABLE REPETITION MARKcWORD REPETITION MARKcVOWEL SIGN VISARGAcVIRAMA"]⟩,
    ⟨0xab01, ["aETHIOPIC SYLLABLE TTHUcTTHIcTTHAAcTTHEEcTTHEcTTHO"]⟩,
    ⟨0xab09, ["aETHIOPIC SYLLABLE DDHUcDDHIcDDHAAcDDHEEcDDHEcDDHO"]⟩,
    ⟨0xab11, ["aETHIOPIC SYLLABLE DZUcDZIcDZAAcDZEEcDZEcDZO"]⟩,
    ⟨0xab20, ["aETHIOPIC SYLLABLE CCHHAcCCHHUcCCHHIcCCHHAAcCCHHEEcCCHHEcCCHHO"]⟩,
    ⟨0xab28, ["aETHIOPIC SYLLABLE BBAcBBUcBBIcBBAAcBBEEcBBEcBBO"]⟩,
    ⟨0xab30, ["aLATIN SMALL LETTER BARRED ALPHAdA REVERSED-SCHWAdBLACKLETTER EdBARRED E",
      "dE WITH FLOURISHdLENIS FdSCRIPT G WITH CROSSED-TAILdL WITH INVERTED LAZY S",
      "fDOUBLE MIDDLE TILDEfMIDDLE RINGdM WITH CROSSED-TAILdN WITH CROSSED-TAIL",
      "dENG WITH CROSSED-TAILdBLACKLETTER OfWITH STROKEdOPEN O WITH STROKEdINVERTED OE",
      "dTURNED OE WITH STROKEgHORIZONTAL STROKEeO OPEN-OgWITH STROKEdSTIRRUP R",
      "bLETTER SMALL CAPITAL R WITH RIGHT LEGbSMALL LETTER R WITHOUT HANDLEdDOUBLE R",
      "dR WITH CROSSED-TAILdDOUBLE R WITH CROSSED-TAILdSCRIPT RfWITH RINGdBASELINE ESH",
      "dU WITH SHORT RIGHT LEGeBAR WITH SHORT RIGHT LEGdUIdTURNED UIdU WITH LEFT HOOKdCHI",
      "eWITH LOW RIGHT RINGgLEFT SERIFdX WITH LOW RIGHT RINGfLONG LEFT LEGiAND LOW RIGHT RING",
      "iWITH SERIFdY WITH SHORT RIGHT LEGaMODIFIER BREVE WITH INVERTED BREVEbLETTER SMALL HENG",
      "dL WITH INVERTED LAZY SfMIDDLE TILDEdU WITH LEFT HOOKaLATIN SMALL LETTER SAKHA YAT",
      "dIOTIFIED EdOPEN OEdUOdINVERTED ALPHAaGREEK LETTER SMALL CAPITAL OMEGA",
      "aLATIN SMALL LETTER DZ DIGRAPH WITH RETROFLEX HOOKdTS DIGRAPH WITH RETROFLEX HOOK",
      "dTURNED R WITH MIDDLE TILDEaMODIFIER LETTER SMALL TURNED WcLEFT TACKcRIGHT TACK"]⟩,
    ⟨0xab70, ["aCHEROKEE SMALL LETTER AdEdIdOdUdVdGAdKAdGEdGIdGOdGUdGVdHAdHEdHIdHOdHUdHVdLAdLE",
      "dLIdLOdLUdLVdMAdMEdMIdMOdMUdNAdHNAdNAHdNEdNIdNOdNUdNVdQUAdQUEdQUIdQUOdQUUdQUVdSAdSdSE",
      "dSIdSOdSUdSVdDAdTAdDEdTEdDIdTIdDOdDUdDVdDLAdTLAdTLEdTLIdTLOdTLUdTLVdTSAdTSEdTSIdTSOdTSU",
      "dTSVdWAdWEdWIdWOdWUdWVdYAaMEETEI MAYEK LETTER KOKdSAMdLAIdMITdPAdNAdCHILdTILdKHOUdNGOU",
      "dTHOUdWAIdYANGdHUKdUNdIdPHAMdATIYAdGOKdJHAMdRAIdBAdJILdDILdGHOUdDHOUdBHAMdKOK LONSUM",
      "dLAI LONSUMdMIT LONSUMdPA LONSUMdNA LONSUMdTIL LONSUMdNGOU LONSUMdI LONSUM",
      "cVOWEL SIGN ONAPeINAPeANAPeYENAPeSOUNAPeUNAPeCHEINAPeNUNGcCHEIKHEIcLUM IYEKcAPUN IYEK"]⟩,
    ⟨0xabf0, ["aMEETEI MAYEK DIGIT ZEROdONEdTWOdTHREEdFOURdFIVEdSIXdSEVENdEIGHTdNINE"]⟩,
    ⟨0xd7b0, ["aHANGUL JUNGSEONG O-YEOcO-O-IcYO-AcYO-AEcYO-EOcU-YEOcU-I-IcYU-AEcYU-OcEU-AcEU-EO",
      "cEU-EcEU-OcI-YA-OcI-YAEcI-YEOcI-YEcI-O-IcI-YOcI-YUcI-IcARAEA-AcARAEA-E"]⟩,
    ⟨0xd7cb, ["aHANGUL JONGSEONG NIEUN-RIEULcNIEUN-CHIEUCHcSSANGTIKEUTcSSANGTIKEUT-PIEUP",
      "cTIKEUT-PIEUPcTIKEUT-SIOScTIKEUT-SIOS-KIYEOKcTIKEUT-CIEUCcTIKEUT-CHIEUCHcTIKEUT-THIEUTH",
      "cRIEUL-SSANGKIYEOKcRIEUL-KIYEOK-HIEUHcSSANGRIEUL-KHIEUKHcRIEUL-MIEUM-HIEUH",
      "cRIEUL-PIEUP-TIKEUTcRIEUL-PIEUP-PHIEUPHcRIEUL-YESIEUNGcRIEUL-YEORINHIEUH-HIEUH",
      "cKAPYEOUNRIEULcMIEUM-NIEUNcMIEUM-SSANGNIEUNcSSANGMIEUMcMIEUM-PIEUP-SIOScMIEUM-CIEUC",
      "cPIEUP-TIKEUTcPIEUP-RIEUL-PHIEUPHcPIEUP-MIEUMcSSANGPIEUPcPIEUP-SIOS-TIKEUTcPIEUP-CIEUC",
      "cPIEUP-CHIEUCHcSIOS-MIEUMcSIOS-KAPYEOUNPIEUPcSSANGSIOS-KIYEOKcSSANGSIOS-TIKEUT",
      "cSIOS-PANSIOScSIOS-CIEUCcSIOS-CHIEUCHcSIOS-THIEUTHcSIOS-HIEUHcPANSIOS-PIEUP",
      "cPANSIOS-KAPYEOUNPIEUPcYESIEUNG-MIEUMcYESIEUNG-HIEUHcCIEUC-PIEUPcCIEUC-SSANGPIEUP",
      "cSSANGCIEUCcPHIEUPH-SIOScPHIEUPH-THIEUTH"]⟩]

def namesFromF900 : List NameRun :=
  [⟨0xf900, ["aCJK COMPATIBILITY IDEOGRAPH-F900cIDEOGRAPH-F901cIDEOGRAPH-F902cIDEOGRAPH-F903",
      "cIDEOGRAPH-F904cIDEOGRAPH-F905cIDEOGRAPH-F906cIDEOGRAPH-F907cIDEOGRAPH-F908",
      "cIDEOGRAPH-F909cIDEOGRAPH-F90AcIDEOGRAPH-F90BcIDEOGRAPH-F90CcIDEOGRAPH-F90D",
      "cIDEOGRAPH-F90EcIDEOGRAPH-F90FcIDEOGRAPH-F910cIDEOGRAPH-F911cIDEOGRAPH-F912",
      "cIDEOGRAPH-F913cIDEOGRAPH-F914cIDEOGRAPH-F915cIDEOGRAPH-F916cIDEOGRAPH-F917",
      "cIDEOGRAPH-F918cIDEOGRAPH-F919cIDEOGRAPH-F91AcIDEOGRAPH-F91BcIDEOGRAPH-F91C",
      "cIDEOGRAPH-F91DcIDEOGRAPH-F91EcIDEOGRAPH-F91FcIDEOGRAPH-F920cIDEOGRAPH-F921",
      "cIDEOGRAPH-F922cIDEOGRAPH-F923cIDEOGRAPH-F924cIDEOGRAPH-F925cIDEOGRAPH-F926",
      "cIDEOGRAPH-F927cIDEOGRAPH-F928cIDEOGRAPH-F929cIDEOGRAPH-F92AcIDEOGRAPH-F92B",
      "cIDEOGRAPH-F92CcIDEOGRAPH-F92DcIDEOGRAPH-F92EcIDEOGRAPH-F92FcIDEOGRAPH-F930",
      "cIDEOGRAPH-F931cIDEOGRAPH-F932cIDEOGRAPH-F933cIDEOGRAPH-F934cIDEOGRAPH-F935",
      "cIDEOGRAPH-F936cIDEOGRAPH-F937cIDEOGRAPH-F938cIDEOGRAPH-F939cIDEOGRAPH-F93A",
      "cIDEOGRAPH-F93BcIDEOGRAPH-F93CcIDEOGRAPH-F93DcIDEOGRAPH-F93EcIDEOGRAPH-F93F",
      "cIDEOGRAPH-F940cIDEOGRAPH-F941cIDEOGRAPH-F942cIDEOGRAPH-F943cIDEOGRAPH-F944",
      "cIDEOGRAPH-F945cIDEOGRAPH-F946cIDEOGRAPH-F947cIDEOGRAPH-F948cIDEOGRAPH-F949",
      "cIDEOGRAPH-F94AcIDEOGRAPH-F94BcIDEOGRAPH-F94CcIDEOGRAPH-F94DcIDEOGRAPH-F94E",
      "cIDEOGRAPH-F94FcIDEOGRAPH-F950cIDEOGRAPH-F951cIDEOGRAPH-F952cIDEOGRAPH-F953",
      "cIDEOGRAPH-F954cIDEOGRAPH-F955cIDEOGRAPH-F956cIDEOGRAPH-F957cIDEOGRAPH-F958",
      "cIDEOGRAPH-F959cIDEOGRAPH-F95AcIDEOGRAPH-F95BcIDEOGRAPH-F95CcIDEOGRAPH-F95D",
      "cIDEOGRAPH-F95EcIDEOGRAPH-F95FcIDEOGRAPH-F960cIDEOGRAPH-F961cIDEOGRAPH-F962",
      "cIDEOGRAPH-F963cIDEOGRAPH-F964cIDEOGRAPH-F965cIDEOGRAPH-F966cIDEOGRAPH-F967",
      "cIDEOGRAPH-F968cIDEOGRAPH-F969cIDEOGRAPH-F96AcIDEOGRAPH-F96BcIDEOGRAPH-F96C",
      "cIDEOGRAPH-F96DcIDEOGRAPH-F96EcIDEOGRAPH-F96FcIDEOGRAPH-F970cIDEOGRAPH-F971",
      "cIDEOGRAPH-F972cIDEOGRAPH-F973cIDEOGRAPH-F974cIDEOGRAPH-F975cIDEOGRAPH-F976",
      "cIDEOGRAPH-F977cIDEOGRAPH-F978cIDEOGRAPH-F979cIDEOGRAPH-F97AcIDEOGRAPH-F97B",
      "cIDEOGRAPH-F97CcIDEOGRAPH-F97DcIDEOGRAPH-F97EcIDEOGRAPH-F97FcIDEOGRAPH-F980",
      "cIDEOGRAPH-F981cIDEOGRAPH-F982cIDEOGRAPH-F983cIDEOGRAPH-F984cIDEOGRAPH-F985",
      "cIDEOGRAPH-F986cIDEOGRAPH-F987cIDEOGRAPH-F988cIDEOGRAPH-F989cIDEOGRAPH-F98A",
      "cIDEOGRAPH-F98BcIDEOGRAPH-F98CcIDEOGRAPH-F98DcIDEOGRAPH-F98EcIDEOGRAPH-F98F",
      "cIDEOGRAPH-F990cIDEOGRAPH-F991cIDEOGRAPH-F992cIDEOGRAPH-F993cIDEOGRAPH-F994",
      "cIDEOGRAPH-F995cIDEOGRAPH-F996cIDEOGRAPH-F997cIDEOGRAPH-F998cIDEOGRAPH-F999",
      "cIDEOGRAPH-F99AcIDEOGRAPH-F99BcIDEOGRAPH-F99CcIDEOGRAPH-F99DcIDEOGRAPH-F99E",
      "cIDEOGRAPH-F99FcIDEOGRAPH-F9A0cIDEOGRAPH-F9A1cIDEOGRAPH-F9A2cIDEOGRAPH-F9A3",
      "cIDEOGRAPH-F9A4cIDEOGRAPH-F9A5cIDEOGRAPH-F9A6cIDEOGRAPH-F9A7cIDEOGRAPH-F9A8",
      "cIDEOGRAPH-F9A9cIDEOGRAPH-F9AAcIDEOGRAPH-F9ABcIDEOGRAPH-F9ACcIDEOGRAPH-F9AD",
      "cIDEOGRAPH-F9AEcIDEOGRAPH-F9AFcIDEOGRAPH-F9B0cIDEOGRAPH-F9B1cIDEOGRAPH-F9B2",
      "cIDEOGRAPH-F9B3cIDEOGRAPH-F9B4cIDEOGRAPH-F9B5cIDEOGRAPH-F9B6cIDEOGRAPH-F9B7",
      "cIDEOGRAPH-F9B8cIDEOGRAPH-F9B9cIDEOGRAPH-F9BAcIDEOGRAPH-F9BBcIDEOGRAPH-F9BC",
      "cIDEOGRAPH-F9BDcIDEOGRAPH-F9BEcIDEOGRAPH-F9BFcIDEOGRAPH-F9C0cIDEOGRAPH-F9C1",
      "cIDEOGRAPH-F9C2cIDEOGRAPH-F9C3cIDEOGRAPH-F9C4cIDEOGRAPH-F9C5cIDEOGRAPH-F9C6",
      "cIDEOGRAPH-F9C7cIDEOGRAPH-F9C8cIDEOGRAPH-F9C9cIDEOGRAPH-F9CAcIDEOGRAPH-F9CB",
      "cIDEOGRAPH-F9CCcIDEOGRAPH-F9CDcIDEOGRAPH-F9CEcIDEOGRAPH-F9CFcIDEOGRAPH-F9D0",
      "cIDEOGRAPH-F9D1cIDEOGRAPH-F9D2cIDEOGRAPH-F9D3cIDEOGRAPH-F9D4cIDEOGRAPH-F9D5",
      "cIDEOGRAPH-F9D6cIDEOGRAPH-F9D7cIDEOGRAPH-F9D8cIDEOGRAPH-F9D9cIDEOGRAPH-F9DA",
      "cIDEOGRAPH-F9DBcIDEOGRAPH-F9DCcIDEOGRAPH-F9DDcIDEOGRAPH-F9DEcIDEOGRAPH-F9DF",
      "cIDEOGRAPH-F9E0cIDEOGRAPH-F9E1cIDEOGRAPH-F9E2cIDEOGRAPH-F9E3cIDEOGRAPH-F9E4",
      "cIDEOGRAPH-F9E5cIDEOGRAPH-F9E6cIDEOGRAPH-F9E7cIDEOGRAPH-F9E8cIDEOGRAPH-F9E9",
      "cIDEOGRAPH-F9EAcIDEOGRAPH-F9EBcIDEOGRAPH-F9ECcIDEOGRAPH-F9EDcIDEOGRAPH-F9EE",
      "cIDEOGRAPH-F9EFcIDEOGRAPH-F9F0cIDEOGRAPH-F9F1cIDEOGRAPH-F9F2cIDEOGRAPH-F9F3",
      "cIDEOGRAPH-F9F4cIDEOGRAPH-F9F5cIDEOGRAPH-F9F6cIDEOGRAPH-F9F7cIDEOGRAPH-F9F8",
      "cIDEOGRAPH-F9F9cIDEOGRAPH-F9FAcIDEOGRAPH-F9FBcIDEOGRAPH-F9FCcIDEOGRAPH-F9FD",
      "cIDEOGRAPH-F9FEcIDEOGRAPH-F9FFcIDEOGRAPH-FA00cIDEOGRAPH-FA01cIDEOGRAPH-FA02",
      "cIDEOGRAPH-FA03cIDEOGRAPH-FA04cIDEOGRAPH-FA05cIDEOGRAPH-FA06cIDEOGRAPH-FA07",
      "cIDEOGRAPH-FA08cIDEOGRAPH-FA09cIDEOGRAPH-FA0AcIDEOGRAPH-FA0BcIDEOGRAPH-FA0C",
      "cIDEOGRAPH-FA0DcIDEOGRAPH-FA0EcIDEOGRAPH-FA0FcIDEOGRAPH-FA10cIDEOGRAPH-FA11",
      "cIDEOGRAPH-FA12cIDEOGRAPH-FA13cIDEOGRAPH-FA14cIDEOGRAPH-FA15cIDEOGRAPH-FA16",
      "cIDEOGRAPH-FA17cIDEOGRAPH-FA18cIDEOGRAPH-FA19cIDEOGRAPH-FA1AcIDEOGRAPH-FA1B",
      "cIDEOGRAPH-FA1CcIDEOGRAPH-FA1DcIDEOGRAPH-FA1EcIDEOGRAPH-FA1FcIDEOGRAPH-FA20",
      "cIDEOGRAPH-FA21cIDEOGRAPH-FA22cIDEOGRAPH-FA23cIDEOGRAPH-FA24cIDEOGRAPH-FA25",
      "cIDEOGRAPH-FA26cIDEOGRAPH-FA27cIDEOGRAPH-FA28cIDEOGRAPH-FA29cIDEOGRAPH-FA2A",
      "cIDEOGRAPH-FA2BcIDEOGRAPH-FA2CcIDEOGRAPH-FA2DcIDEOGRAPH-FA2EcIDEOGRAPH-FA2F",
      "cIDEOGRAPH-FA30cIDEOGRAPH-FA31cIDEOGRAPH-FA32cIDEOGRAPH-FA33cIDEOGRAPH-FA34",
      "cIDEOGRAPH-FA35cIDEOGRAPH-FA36cIDEOGRAPH-FA37cIDEOGRAPH-FA38cIDEOGRAPH-FA39",
      "cIDEOGRAPH-FA3AcIDEOGRAPH-FA3BcIDEOGRAPH-FA3CcIDEOGRAPH-FA3DcIDEOGRAPH-FA3E",
      "cIDEOGRAPH-FA3FcIDEOGRAPH-FA40cIDEOGRAPH-FA41cIDEOGRAPH-FA42cIDEOGRAPH-FA43",
      "cIDEOGRAPH-FA44cIDEOGRAPH-FA45cIDEOGRAPH-FA46cIDEOGRAPH-FA47cIDEOGRAPH-FA48",
      "cIDEOGRAPH-FA49cIDEOGRAPH-FA4AcIDEOGRAPH-FA4BcIDEOGRAPH-FA4CcIDEOGRAPH-FA4D",
      "cIDEOGRAPH-FA4EcIDEOGRAPH-FA4FcIDEOGRAPH-FA50cIDEOGRAPH-FA51cIDEOGRAPH-FA52",
      "cIDEOGRAPH-FA53cIDEOGRAPH-FA54cIDEOGRAPH-FA55cIDEOGRAPH-FA56cIDEOGRAPH-FA57",
      "cIDEOGRAPH-FA58cIDEOGRAPH-FA59cIDEOGRAPH-FA5AcIDEOGRAPH-FA5BcIDEOGRAPH-FA5C",
      "cIDEOGRAPH-FA5DcIDEOGRAPH-FA5EcIDEOGRAPH-FA5FcIDEOGRAPH-FA60cIDEOGRAPH-FA61",
      "cIDEOGRAPH-FA62cIDEOGRAPH-FA63cIDEOGRAPH-FA64cIDEOGRAPH-FA65cIDEOGRAPH-FA66",
      "cIDEOGRAPH-FA67cIDEOGRAPH-FA68cIDEOGRAPH-FA69cIDEOGRAPH-FA6AcIDEOGRAPH-FA6B",
      "cIDEOGRAPH-FA6CcIDEOGRAPH-FA6D"]⟩,
    ⟨0xfa70, ["aCJK COMPATIBILITY IDEOGRAPH-FA70cIDEOGRAPH-FA71cIDEOGRAPH-FA72cIDEOGRAPH-FA73",
      "cIDEOGRAPH-FA74cIDEOGRAPH-FA75cIDEOGRAPH-FA76cIDEOGRAPH-FA77cIDEOGRAPH-FA78",
      "cIDEOGRAPH-FA79cIDEOGRAPH-FA7AcIDEOGRAPH-FA7BcIDEOGRAPH-FA7CcIDEOGRAPH-FA7D",
      "cIDEOGRAPH-FA7EcIDEOGRAPH-FA7FcIDEOGRAPH-FA80cIDEOGRAPH-FA81cIDEOGRAPH-FA82",
      "cIDEOGRAPH-FA83cIDEOGRAPH-FA84cIDEOGRAPH-FA85cIDEOGRAPH-FA86cIDEOGRAPH-FA87",
      "cIDEOGRAPH-FA88cIDEOGRAPH-FA89cIDEOGRAPH-FA8AcIDEOGRAPH-FA8BcIDEOGRAPH-FA8C",
      "cIDEOGRAPH-FA8DcIDEOGRAPH-FA8EcIDEOGRAPH-FA8FcIDEOGRAPH-FA90cIDEOGRAPH-FA91",
      "cIDEOGRAPH-FA92cIDEOGRAPH-FA93cIDEOGRAPH-FA94cIDEOGRAPH-FA95cIDEOGRAPH-FA96",
      "cIDEOGRAPH-FA97cIDEOGRAPH-FA98cIDEOGRAPH-FA99cIDEOGRAPH-FA9AcIDEOGRAPH-FA9B",
      "cIDEOGRAPH-FA9CcIDEOGRAPH-FA9DcIDEOGRAPH-FA9EcIDEOGRAPH-FA9FcIDEOGRAPH-FAA0",
      "cIDEOGRAPH-FAA1cIDEOGRAPH-FAA2cIDEOGRAPH-FAA3cIDEOGRAPH-FAA4cIDEOGRAPH-FAA5",
      "cIDEOGRAPH-FAA6cIDEOGRAPH-FAA7cIDEOGRAPH-FAA8cIDEOGRAPH-FAA9cIDEOGRAPH-FAAA",
      "cIDEOGRAPH-FAABcIDEOGRAPH-FAACcIDEOGRAPH-FAADcIDEOGRAPH-FAAEcIDEOGRAPH-FAAF",
      "cIDEOGRAPH-FAB0cIDEOGRAPH-FAB1cIDEOGRAPH-FAB2cIDEOGRAPH-FAB3cIDEOGRAPH-FAB4",
      "cIDEOGRAPH-FAB5cIDEOGRAPH-FAB6cIDEOGRAPH-FAB7cIDEOGRAPH-FAB8cIDEOGRAPH-FAB9",
      "cIDEOGRAPH-FABAcIDEOGRAPH-FABBcIDEOGRAPH-FABCcIDEOGRAPH-FABDcIDEOGRAPH-FABE",
      "cIDEOGRAPH-FABFcIDEOGRAPH-FAC0cIDEOGRAPH-FAC1cIDEOGRAPH-FAC2cIDEOGRAPH-FAC3",
      "cIDEOGRAPH-FAC4cIDEOGRAPH-FAC5cIDEOGRAPH-FAC6cIDEOGRAPH-FAC7cIDEOGRAPH-FAC8",
      "cIDEOGRAPH-FAC9cIDEOGRAPH-FACAcIDEOGRAPH-FACBcIDEOGRAPH-FACCcIDEOGRAPH-FACD",
      "cIDEOGRAPH-FACEcIDEOGRAPH-FACFcIDEOGRAPH-FAD0cIDEOGRAPH-FAD1cIDEOGRAPH-FAD2",
      "cIDEOGRAPH-FAD3cIDEOGRAPH-FAD4cIDEOGRAPH-FAD5cIDEOGRAPH-FAD6cIDEOGRAPH-FAD7",
      "cIDEOGRAPH-FAD8cIDEOGRAPH-FAD9"]⟩,
    ⟨0xfb00, ["aLATIN SMALL LIGATURE FFdFIdFLdFFIdFFLdLONG S TdST"]⟩,
    ⟨0xfb13, ["aARMENIAN SMALL LIGATURE MEN NOWeECHeINIdVEW NOWdMEN XEH"]⟩,
    ⟨0xfb1d, ["aHEBREW LETTER YOD WITH HIRIQbPOINT JUDEO-SPANISH VARIKA",
      "bLIGATURE YIDDISH YOD YOD PATAHbLETTER ALTERNATIVE AYINcWIDE ALEFdDALETdHEdKAFdLAMED",
      "dFINAL MEMdRESHdTAVcALTERNATIVE PLUS SIGNcSHIN WITH SHIN DOTeSIN DOT",
      "eDAGESH AND SHIN DOTgSIN DOTcALEF WITH PATAHeQAMATSeMAPIQcBET WITH DAGESH",
      "cGIMEL WITH DAGESHcDALET WITH DAGESHcHE WITH MAPIQcVAV WITH DAGESHcZAYIN WITH DAGESH"]⟩,
    ⟨0xfb38, ["aHEBREW LETTER TET WITH DAGESHcYOD WITH DAGESHcFINAL KAF WITH DAGESH",
      "cKAF WITH DAGESHcLAMED WITH DAGESH"]⟩,
    ⟨0xfb3e, ["aHEBREW LETTER MEM WITH DAGESH"]⟩,
    ⟨0xfb40, ["aHEBREW LETTER NUN WITH DAGESHcSAMEKH WITH DAGESH"]⟩,
    ⟨0xfb43, ["aHEBREW LETTER FINAL PE WITH DAGESHcPE WITH DAGESH"]⟩]

def namesFromFB46 : List NameRun :=
  [⟨0xfb46, ["aHEBREW LETTER TSADI WITH DAGESHcQOF WITH DAGESHcRESH WITH DAGESH",
      "cSHIN WITH DAGESHcTAV WITH DAGESHcVAV WITH HOLAMcBET WITH RAFEcKAF WITH RAFE",
      "cPE WITH RAFEbLIGATURE ALEF LAMEDaARABIC LETTER ALEF WASLA ISOLATED FORMeFINAL FORM",
      "cBEEH ISOLATED FORMdFINAL FORMdINITIAL FORMdMEDIAL FORMcPEH ISOLATED FORMdFINAL FORM",
      "dINITIAL FORMdMEDIAL FORMcBEHEH ISOLATED FORMdFINAL FORMdINITIAL FORMdMEDIAL FORM",
      "cTTEHEH ISOLATED FORMdFINAL FORMdINITIAL FORMdMEDIAL FORMcTEHEH ISOLATED FORM",
      "dFINAL FORMdINITIAL FORMdMEDIAL FORMcTTEH ISOLATED FORMdFINAL FORMdINITIAL FORM",
      "dMEDIAL FORMcVEH ISOLATED FORMdFINAL FORMdINITIAL FORMdMEDIAL FORMcPEHEH ISOLATED FORM",
      "dFINAL FORMdINITIAL FORMdMEDIAL FORMcDYEH ISOLATED FORMdFINAL FORMdINITIAL FORM",
      "dMEDIAL FORMcNYEH ISOLATED FORMdFINAL FORMdINITIAL FORMdMEDIAL FORMcTCHEH ISOLATED FORM",
      "dFINAL FORMdINITIAL FORMdMEDIAL FORMcTCHEHEH ISOLATED FORMdFINAL FORMdINITIAL FORM",
      "dMEDIAL FORMcDDAHAL ISOLATED FORMdFINAL FORMcDAHAL ISOLATED FORMdFINAL FORM",
      "cDUL ISOLATED FORMdFINAL FORMcDDAL ISOLATED FORMdFINAL FORMcJEH ISOLATED FORM",
      "dFINAL FORMcRREH ISOLATED FORMdFINAL FORMcKEHEH ISOLATED FORMdFINAL FORMdINITIAL FORM",
      "dMEDIAL FORMcGAF ISOLATED FORMdFINAL FORMdINITIAL FORMdMEDIAL FORMcGUEH ISOLATED FORM",
      "dFINAL FORMdINITIAL FORMdMEDIAL FORMcNGOEH ISOLATED FORMdFINAL FORMdINITIAL FORM",
      "dMEDIAL FORMcNOON GHUNNA ISOLATED FORMeFINAL FORMcRNOON ISOLATED FORMdFINAL FORM",
      "dINITIAL FORMdMEDIAL FORMcHEH WITH YEH ABOVE ISOLATED FORMgFINAL FORM",
      "dGOAL ISOLATED FORMeFINAL FORMeINITIAL FORMeMEDIAL FORMdDOACHASHMEE ISOLATED FORM",
      "eFINAL FORMeINITIAL FORMeMEDIAL FORMcYEH BARREE ISOLATED FORMeFINAL FORM",
      "eWITH HAMZA ABOVE ISOLATED FORMhFINAL FORMbSYMBOL DOT ABOVEdBELOWcTWO DOTS ABOVEeBELOW",
      "cTHREE DOTS ABOVEeBELOWePOINTING DOWNWARDS ABOVEgBELOWcFOUR DOTS ABOVEeBELOW",
      "cDOUBLE VERTICAL BAR BELOWcTWO DOTS VERTICALLY ABOVEfBELOWcRINGcSMALL TAH ABOVEeBELOW",
      "cWASLA ABOVE"]⟩]

def namesFromFBD3 : List NameRun :=
  [⟨0xfbd3, ["aARABIC LETTER NG ISOLATED FORMdFINAL FORMdINITIAL FORMdMEDIAL FORM",
      "cU ISOLATED FORMdFINAL FORMcOE ISOLATED FORMdFINAL FORMcYU ISOLATED FORMdFINAL FORM",
      "cU WITH HAMZA ABOVE ISOLATED FORMcVE ISOLATED FORMdFINAL FORMcKIRGHIZ OE ISOLATED FORM",
      "eFINAL FORMdYU ISOLATED FORMeFINAL FORMcE ISOLATED FORMdFINAL FORMdINITIAL FORM",
      "dMEDIAL FORMcUIGHUR KAZAKH KIRGHIZ ALEF MAKSURA INITIAL FORMhMEDIAL FORM",
      "bLIGATURE YEH WITH HAMZA ABOVE WITH ALEF ISOLATED FORMiFINAL FORMhAE ISOLATED FORM",
      "iFINAL FORMhWAW ISOLATED FORMiFINAL FORMhU ISOLATED FORMiFINAL FORMhOE ISOLATED FORM",
      "iFINAL FORMhYU ISOLATED FORMiFINAL FORMhE ISOLATED FORMiFINAL FORMiINITIAL FORM",
      "cUIGHUR KIRGHIZ YEH WITH HAMZA ABOVE WITH ALEF MAKSURA ISOLATED FORMlFINAL FORM",
      "lINITIAL FORMbLETTER FARSI YEH ISOLATED FORMeFINAL FORMeINITIAL FORMeMEDIAL FORM",
      "bLIGATURE YEH WITH HAMZA ABOVE WITH JEEM ISOLATED FORMhHAH ISOLATED FORM",
      "hMEEM ISOLATED FORMhALEF MAKSURA ISOLATED FORMhYEH ISOLATED FORM",
      "cBEH WITH JEEM ISOLATED FORMeHAH ISOLATED FORMeKHAH ISOLATED FORMeMEEM ISOLATED FORM",
      "eALEF MAKSURA ISOLATED FORMeYEH ISOLATED FORMcTEH WITH JEEM ISOLATED FORM",
      "eHAH ISOLATED FORMeKHAH ISOLATED FORMeMEEM ISOLATED FORMeALEF MAKSURA ISOLATED FORM",
      "eYEH ISOLATED FORMcTHEH WITH JEEM ISOLATED FORMeMEEM ISOLATED FORM",
      "eALEF MAKSURA ISOLATED FORMeYEH ISOLATED FORMcJEEM WITH HAH ISOLATED FORM",
      "eMEEM ISOLATED FORMcHAH WITH JEEM ISOLATED FORMeMEEM ISOLATED FORM",
      "cKHAH WITH JEEM ISOLATED FORMeHAH ISOLATED FORMeMEEM ISOLATED FORM",
      "cSEEN WITH JEEM ISOLATED FORMeHAH ISOLATED FORMeKHAH ISOLATED FORMeMEEM ISOLATED FORM",
      "cSAD WITH HAH ISOLATED FORMeMEEM ISOLATED FORMcDAD WITH JEEM ISOLATED FORM",
      "eHAH ISOLATED FORMeKHAH ISOLATED FORMeMEEM ISOLATED FORMcTAH WITH HAH ISOLATED FORM",
      "eMEEM ISOLATED FORMcZAH WITH MEEM ISOLATED FORMcAIN WITH JEEM ISOLATED FORM",
      "eMEEM ISOLATED FORMcGHAIN WITH JEEM ISOLATED FORMeMEEM ISOLATED FORM",
      "cFEH WITH JEEM ISOLATED FORMeHAH ISOLATED FORMeKHAH ISOLATED FORMeMEEM ISOLATED FORM",
      "eALEF MAKSURA ISOLATED FORMeYEH ISOLATED FORMcQAF WITH HAH ISOLATED FORM",
      "eMEEM ISOLATED FORMeALEF MAKSURA ISOLATED FORMeYEH ISOLATED FORM",
      "cKAF WITH ALEF ISOLATED FORMeJEEM ISOLATED FORMeHAH ISOLATED FORMeKHAH ISOLATED FORM",
      "eLAM ISOLATED FORMeMEEM ISOLATED FORMeALEF MAKSURA ISOLATED FORMeYEH ISOLATED FORM",
      "cLAM WITH JEEM ISOLATED FORMeHAH ISOLATED FORMeKHAH ISOLATED FORMeMEEM ISOLATED FORM",
      "eALEF MAKSURA ISOLATED FORMeYEH ISOLATED FORMcMEEM WITH JEEM ISOLATED FORM",
      "eHAH ISOLATED FORMeKHAH ISOLATED FORMeMEEM ISOLATED FORMeALEF MAKSURA ISOLATED FORM",
      "eYEH ISOLATED FORMcNOON WITH JEEM ISOLATED FORMeHAH ISOLATED FORMeKHAH ISOLATED FORM",
      "eMEEM ISOLATED FORMeALEF MAKSURA ISOLATED FORMeYEH ISOLATED FORM",
      "cHEH WITH JEEM ISOLATED FORMeMEEM ISOLATED FORMeALEF MAKSURA ISOLATED FORM",
      "eYEH ISOLATED FORMcYEH WITH JEEM ISOLATED FORMeHAH ISOLATED FORMeKHAH ISOLATED FORM",
      "eMEEM ISOLATED FORMeALEF MAKSURA ISOLATED FORMeYEH ISOLATED FORM",
      "cTHAL WITH SUPERSCRIPT ALEF ISOLATED FORMcREH WITH SUPERSCRIPT ALEF ISOLATED FORM",
      "cALEF MAKSURA WITH SUPERSCRIPT ALEF ISOLATED FORMcSHADDA WITH DAMMATAN ISOLATED FORM",
      "eKASRATAN ISOLATED FORMeFATHA ISOLATED FORMeDAMMA ISOLATED FORMeKASRA ISOLATED FORM",
      "eSUPERSCRIPT ALEF ISOLATED FORMcYEH WITH HAMZA ABOVE WITH REH FINAL FORM",
      "hZAIN FINAL FORMhMEEM FINAL FORMhNOON FINAL FORMhALEF MAKSURA FINAL FORMhYEH FINAL FORM",
      "cBEH WITH REH FINAL FORMeZAIN FINAL FORMeMEEM FINAL FORMeNOON FINAL FORM",
      "eALEF MAKSURA FINAL FORMeYEH FINAL FORMcTEH WITH REH FINAL FORMeZAIN FINAL FORM",
      "eMEEM FINAL FORMeNOON FINAL FORMeALEF MAKSURA FINAL FORMeYEH FINAL FORM",
      "cTHEH WITH REH FINAL FORMeZAIN FINAL FORMeMEEM FINAL FORMeNOON FINAL FORM",
      "eALEF MAKSURA FINAL FORMeYEH FINAL FORMcFEH WITH ALEF MAKSURA FINAL FORMeYEH FINAL FORM",
      "cQAF WITH ALEF MAKSURA FINAL FORMeYEH FINAL FORMcKAF WITH ALEF FINAL FORM",
      "eLAM FINAL FORMeMEEM FINAL FORMeALEF MAKSURA FINAL FORMeYEH FINAL FORM",
      "cLAM WITH MEEM FINAL FORMeALEF MAKSURA FINAL FORMeYEH FINAL FORM",
      "cMEEM WITH ALEF FINAL FORMeMEEM FINAL FORMcNOON WITH REH FINAL FORMeZAIN FINAL FORM",
      "eMEEM FINAL FORMeNOON FINAL FORMeALEF MAKSURA FINAL FORMeYEH FINAL FORM",
      "cALEF MAKSURA WITH SUPERSCRIPT ALEF FINAL FORMcYEH WITH REH FINAL FORMeZAIN FINAL FORM",
      "eMEEM FINAL FORMeNOON FINAL FORMeALEF MAKSURA FINAL FORMeYEH FINAL FORM",
      "eHAMZA ABOVE WITH JEEM INITIAL FORMhHAH INITIAL FORMhKHAH INITIAL FORM",
      "hMEEM INITIAL FORMhHEH INITIAL FORMcBEH WITH JEEM INITIAL FORMeHAH INITIAL FORM",
      "eKHAH INITIAL FORMeMEEM INITIAL FORMeHEH INITIAL FORMcTEH WITH JEEM INITIAL FORM",
      "eHAH INITIAL FORMeKHAH INITIAL FORMeMEEM INITIAL FORMeHEH INITIAL FORM",
      "cTHEH WITH MEEM INITIAL FORMcJEEM WITH HAH INITIAL FORMeMEEM INITIAL FORM",
      "cHAH WITH JEEM INITIAL FORMeMEEM INITIAL FORMcKHAH WITH JEEM INITIAL FORM",
      "eMEEM INITIAL FORMcSEEN WITH JEEM INITIAL FORMeHAH INITIAL FORMeKHAH INITIAL FORM",
      "eMEEM INITIAL FORMcSAD WITH HAH INITIAL FORMeKHAH INITIAL FORMeMEEM INITIAL FORM",
      "cDAD WITH JEEM INITIAL FORMeHAH INITIAL FORMeKHAH INITIAL FORMeMEEM INITIAL FORM",
      "cTAH WITH HAH INITIAL FORMcZAH WITH MEEM INITIAL FORMcAIN WITH JEEM INITIAL FORM",
      "eMEEM INITIAL FORMcGHAIN WITH JEEM INITIAL FORMeMEEM INITIAL FORM",
      "cFEH WITH JEEM INITIAL FORMeHAH INITIAL FORMeKHAH INITIAL FORMeMEEM INITIAL FORM",
      "cQAF WITH HAH INITIAL FORMeMEEM INITIAL FORMcKAF WITH JEEM INITIAL FORM",
      "eHAH INITIAL FORMeKHAH INITIAL FORMeLAM INITIAL FORMeMEEM INITIAL FORM",
      "cLAM WITH JEEM INITIAL FORMeHAH INITIAL FORMeKHAH INITIAL FORMeMEEM INITIAL FORM",
      "eHEH INITIAL FORMcMEEM WITH JEEM INITIAL FORMeHAH INITIAL FORMeKHAH INITIAL FORM",
      "eMEEM INITIAL FORMcNOON WITH JEEM INITIAL FORMeHAH INITIAL FORMeKHAH INITIAL FORM",
      "eMEEM INITIAL FORMeHEH INITIAL FORMcHEH WITH JEEM INITIAL FORMeMEEM INITIAL FORM",
      "eSUPERSCRIPT ALEF INITIAL FORMcYEH WITH JEEM INITIAL FORMeHAH INITIAL FORM",
      "eKHAH INITIAL FORMeMEEM INITIAL FORMeHEH INITIAL FORMeHAMZA ABOVE WITH MEEM MEDIAL FORM",
      "hHEH MEDIAL FORMcBEH WITH MEEM MEDIAL FORMeHEH MEDIAL FORMcTEH WITH MEEM MEDIAL FORM",
      "eHEH MEDIAL FORMcTHEH WITH MEEM MEDIAL FORMeHEH MEDIAL FORMcSEEN WITH MEEM MEDIAL FORM",
      "eHEH MEDIAL FORMcSHEEN WITH MEEM MEDIAL FORMeHEH MEDIAL FORMcKAF WITH LAM MEDIAL FORM",
      "eMEEM MEDIAL FORMcLAM WITH MEEM MEDIAL FORMcNOON WITH MEEM MEDIAL FORMeHEH MEDIAL FORM",
      "cYEH WITH MEEM MEDIAL FORMeHEH MEDIAL FORMcSHADDA WITH FATHA MEDIAL FORM",
      "eDAMMA MEDIAL FORMeKASRA MEDIAL FORMcTAH WITH ALEF MAKSURA ISOLATED FORM",
      "eYEH ISOLATED FORMcAIN WITH ALEF MAKSURA ISOLATED FORMeYEH ISOLATED FORM",
      "cGHAIN WITH ALEF MAKSURA ISOLATED FORMeYEH ISOLATED FORM",
      "cSEEN WITH ALEF MAKSURA ISOLATED FORMeYEH ISOLATED FORM",
      "cSHEEN WITH ALEF MAKSURA ISOLATED FORMeYEH ISOLATED FORM",
      "cHAH WITH ALEF MAKSURA ISOLATED FORMeYEH ISOLATED FORM",
      "cJEEM WITH ALEF MAKSURA ISOLATED FORMeYEH ISOLATED FORM",
      "cKHAH WITH ALEF MAKSURA ISOLATED FORMeYEH ISOLATED FORM",
      "cSAD WITH ALEF MAKSURA ISOLATED FORMeYEH ISOLATED FORM",
      "cDAD WITH ALEF MAKSURA ISOLATED FORMeYEH ISOLATED FORMcSHEEN WITH JEEM ISOLATED FORM",
      "eHAH ISOLATED FORMeKHAH ISOLATED FORMeMEEM ISOLATED FORMeREH ISOLATED FORM",
      "cSEEN WITH REH ISOLATED FORMcSAD WITH REH ISOLATED FORMcDAD WITH REH ISOLATED FORM",
      "cTAH WITH ALEF MAKSURA FINAL FORMeYEH FINAL FORMcAIN WITH ALEF MAKSURA FINAL FORM",
      "eYEH FINAL FORMcGHAIN WITH ALEF MAKSURA FINAL FORMeYEH FINAL FORM",
      "cSEEN WITH ALEF MAKSURA FINAL FORMeYEH FINAL FORMcSHEEN WITH ALEF MAKSURA FINAL FORM",
      "eYEH FINAL FORMcHAH WITH ALEF MAKSURA FINAL FORMeYEH FINAL FORM",
      "cJEEM WITH ALEF MAKSURA FINAL FORMeYEH FINAL FORMcKHAH WITH ALEF MAKSURA FINAL FORM",
      "eYEH FINAL FORMcSAD WITH ALEF MAKSURA FINAL FORMeYEH FINAL FORM",
      "cDAD WITH ALEF MAKSURA FINAL FORMeYEH FINAL FORMcSHEEN WITH JEEM FINAL FORM",
      "eHAH FINAL FORMeKHAH FINAL FORMeMEEM FINAL FORMeREH FINAL FORMcSEEN WITH REH FINAL FORM",
      "cSAD WITH REH FINAL FORMcDAD WITH REH FINAL FORMcSHEEN WITH JEEM INITIAL FORM",
      "eHAH INITIAL FORMeKHAH INITIAL FORMeMEEM INITIAL FORMcSEEN WITH HEH INITIAL FORM",
      "cSHEEN WITH HEH INITIAL FORMcTAH WITH MEEM INITIAL FORMcSEEN WITH JEEM MEDIAL FORM",
      "eHAH MEDIAL FORMeKHAH MEDIAL FORMcSHEEN WITH JEEM MEDIAL FORMeHAH MEDIAL FORM",
      "eKHAH MEDIAL FORMcTAH WITH MEEM MEDIAL FORMcZAH WITH MEEM MEDIAL FORM",
      "cALEF WITH FATHATAN FINAL FORMfISOLATED FORMaORNATE LEFT PARENTHESISbRIGHT PARENTHESIS",
      "aARABIC LIGATURE RAHIMAHU ALLAAHcRADI ALLAAHU ANHeANHAAeANHUMeANHUMAAeANHUNNA",
      "cSALLALLAAHU ALAYHI WA-AALIHcALAYHI AS-SALAAMcALAYHIM AS-SALAAMcALAYHIMAA AS-SALAAM",
      "cALAYHI AS-SALAATU WAS-SALAAMcQUDDISA SIRRAHcSALLALLAHU ALAYHI WAAALIHEE WA-SALLAM",
      "cALAYHAA AS-SALAAMcTABAARAKA WA-TAAALAAcRAHIMAHUM ALLAAH",
      "cTEH WITH JEEM WITH MEEM INITIAL FORMeHAH WITH JEEM FINAL FORMhINITIAL FORM",
      "gMEEM INITIAL FORMeKHAH WITH MEEM INITIAL FORMeMEEM WITH JEEM INITIAL FORM",
      "gHAH INITIAL FORMgKHAH INITIAL FORMcJEEM WITH MEEM WITH HAH FINAL FORMhINITIAL FORM",
      "cHAH WITH MEEM WITH YEH FINAL FORMgALEF MAKSURA FINAL FORM",
      "cSEEN WITH HAH WITH JEEM INITIAL FORMeJEEM WITH HAH INITIAL FORM",
      "gALEF MAKSURA FINAL FORMeMEEM WITH HAH FINAL FORMhINITIAL FORMgJEEM INITIAL FORM",
      "gMEEM FINAL FORMhINITIAL FORMcSAD WITH HAH WITH HAH FINAL FORMhINITIAL FORM",
      "eMEEM WITH MEEM FINAL FORMcSHEEN WITH HAH WITH MEEM FINAL FORMhINITIAL FORM",
      "eJEEM WITH YEH FINAL FORMeMEEM WITH KHAH FINAL FORMhINITIAL FORMgMEEM FINAL FORM",
      "hINITIAL FORMcDAD WITH HAH WITH ALEF MAKSURA FINAL FORMeKHAH WITH MEEM FINAL FORM",
      "hINITIAL FORMcTAH WITH MEEM WITH HAH FINAL FORMhINITIAL FORMgMEEM INITIAL FORM",
      "gYEH FINAL FORMcAIN WITH JEEM WITH MEEM FINAL FORMeMEEM WITH MEEM FINAL FORM",
      "hINITIAL FORMgALEF MAKSURA FINAL FORMcGHAIN WITH MEEM WITH MEEM FINAL FORM",
      "gYEH FINAL FORMgALEF MAKSURA FINAL FORMcFEH WITH KHAH WITH MEEM FINAL FORMhINITIAL FORM",
      "cQAF WITH MEEM WITH HAH FINAL FORMgMEEM FINAL FORMcLAM WITH HAH WITH MEEM FINAL FORM",
      "gYEH FINAL FORMgALEF MAKSURA FINAL FORMeJEEM WITH JEEM INITIAL FORMhFINAL FORM",
      "eKHAH WITH MEEM FINAL FORMhINITIAL FORMeMEEM WITH HAH FINAL FORMhINITIAL FORM",
      "cMEEM WITH HAH WITH JEEM INITIAL FORMgMEEM INITIAL FORMgYEH FINAL FORM",
      "eJEEM WITH HAH INITIAL FORMgMEEM INITIAL FORMeKHAH WITH JEEM INITIAL FORM",
      "gMEEM INITIAL FORM"]⟩]

def namesFromFD92 : List NameRun :=
  [⟨0xfd92, ["aARABIC LIGATURE MEEM WITH JEEM WITH KHAH INITIAL FORM",
      "cHEH WITH MEEM WITH JEEM INITIAL FORMgMEEM INITIAL FORM",
      "cNOON WITH HAH WITH MEEM INITIAL FORMgALEF MAKSURA FINAL FORMeJEEM WITH MEEM FINAL FORM",
      "hINITIAL FORMgALEF MAKSURA FINAL FORMeMEEM WITH YEH FINAL FORMgALEF MAKSURA FINAL FORM",
      "cYEH WITH MEEM WITH MEEM FINAL FORMhINITIAL FORMcBEH WITH KHAH WITH YEH FINAL FORM",
      "cTEH WITH JEEM WITH YEH FINAL FORMgALEF MAKSURA FINAL FORMeKHAH WITH YEH FINAL FORM",
      "gALEF MAKSURA FINAL FORMeMEEM WITH YEH FINAL FORMgALEF MAKSURA FINAL FORM",
      "cJEEM WITH MEEM WITH YEH FINAL FORMeHAH WITH ALEF MAKSURA FINAL FORM",
      "eMEEM WITH ALEF MAKSURA FINAL FORMcSEEN WITH KHAH WITH ALEF MAKSURA FINAL FORM",
      "cSAD WITH HAH WITH YEH FINAL FORMcSHEEN WITH HAH WITH YEH FINAL FORM",
      "cDAD WITH HAH WITH YEH FINAL FORMcLAM WITH JEEM WITH YEH FINAL FORM",
      "eMEEM WITH YEH FINAL FORMcYEH WITH HAH WITH YEH FINAL FORMeJEEM WITH YEH FINAL FORM",
      "eMEEM WITH YEH FINAL FORMcMEEM WITH MEEM WITH YEH FINAL FORM",
      "cQAF WITH MEEM WITH YEH FINAL FORMcNOON WITH HAH WITH YEH FINAL FORM",
      "cQAF WITH MEEM WITH HAH INITIAL FORMcLAM WITH HAH WITH MEEM INITIAL FORM",
      "cAIN WITH MEEM WITH YEH FINAL FORMcKAF WITH MEEM WITH YEH FINAL FORM",
      "cNOON WITH JEEM WITH HAH INITIAL FORMcMEEM WITH KHAH WITH YEH FINAL FORM",
      "cLAM WITH JEEM WITH MEEM INITIAL FORMcKAF WITH MEEM WITH MEEM FINAL FORM",
      "cLAM WITH JEEM WITH MEEM FINAL FORMcNOON WITH JEEM WITH HAH FINAL FORM",
      "cJEEM WITH HAH WITH YEH FINAL FORMcHAH WITH JEEM WITH YEH FINAL FORM",
      "cMEEM WITH JEEM WITH YEH FINAL FORMcFEH WITH MEEM WITH YEH FINAL FORM",
      "cBEH WITH HAH WITH YEH FINAL FORMcKAF WITH MEEM WITH MEEM INITIAL FORM",
      "cAIN WITH JEEM WITH MEEM INITIAL FORMcSAD WITH MEEM WITH MEEM INITIAL FORM",
      "cSEEN WITH KHAH WITH YEH FINAL FORMcNOON WITH JEEM WITH YEH FINAL FORM"]⟩,
    ⟨0xfdcf, ["aARABIC LIGATURE SALAAMUHU ALAYNAA"]⟩,
    ⟨0xfdf0, ["aARABIC LIGATURE SALLA USED AS KORANIC STOP SIGN ISOLATED FORM",
      "cQALA USED AS KORANIC STOP SIGN ISOLATED FORMcALLAH ISOLATED FORMcAKBAR ISOLATED FORM",
      "cMOHAMMAD ISOLATED FORMcSALAM ISOLATED FORMcRASOUL ISOLATED FORMcALAYHE ISOLATED FORM",
      "cWASALLAM ISOLATED FORMcSALLA ISOLATED FORMcSALLALLAHOU ALAYHE WASALLAMcJALLAJALALOUHOU",
      "aRIAL SIGNaARABIC LIGATURE BISMILLAH AR-RAHMAN AR-RAHEEMcSUBHAANAHU WA TAAALAA",
      "cAZZA WA JALLaVARIATION SELECTOR-1bSELECTOR-2bSELECTOR-3bSELECTOR-4bSELECTOR-5",
      "bSELECTOR-6bSELECTOR-7bSELECTOR-8bSELECTOR-9bSELECTOR-10bSELECTOR-11bSELECTOR-12",
      "bSELECTOR-13bSELECTOR-14bSELECTOR-15bSELECTOR-16aPRESENTATION FORM FOR VERTICAL COMMA",
      "eIDEOGRAPHIC COMMAfFULL STOPeCOLONeSEMICOLONeEXCLAMATION MARKeQUESTION MARK",
      "eLEFT WHITE LENTICULAR BRACKETeRIGHT WHITE LENTICULAR BRAKCETeHORIZONTAL ELLIPSIS"]⟩,
    ⟨0xfe20, ["aCOMBINING LIGATURE LEFT HALFcRIGHT HALFbDOUBLE TILDE LEFT HALFdRIGHT HALF",
      "bMACRON LEFT HALFcRIGHT HALFbCONJOINING MACRONbLIGATURE LEFT HALF BELOW",
      "cRIGHT HALF BELOWbTILDE LEFT HALF BELOWcRIGHT HALF BELOWbMACRON LEFT HALF BELOW",
      "cRIGHT HALF BELOWbCONJOINING MACRON BELOWbCYRILLIC TITLO LEFT HALFdRIGHT HALF",
      "aPRESENTATION FORM FOR VERTICAL TWO DOT LEADEReEM DASHeEN DASHeLOW LINEeWAVY LOW LINE",
      "eLEFT PARENTHESISeRIGHT PARENTHESISeLEFT CURLY BRACKETeRIGHT CURLY BRACKET",
      "eLEFT TORTOISE SHELL BRACKETeRIGHT TORTOISE SHELL BRACKETeLEFT BLACK LENTICULAR BRACKET",
      "eRIGHT BLACK LENTICULAR BRACKETeLEFT DOUBLE ANGLE BRACKETeRIGHT DOUBLE ANGLE BRACKET",
      "eLEFT ANGLE BRACKETeRIGHT ANGLE BRACKETeLEFT CORNER BRACKETeRIGHT CORNER BRACKET",
      "eLEFT WHITE CORNER BRACKETeRIGHT WHITE CORNER BRACKETaSESAME DOTaWHITE SESAME DOT",
      "aPRESENTATION FORM FOR VERTICAL LEFT SQUARE BRACKETeRIGHT SQUARE BRACKET",
      "aDASHED OVERLINEaCENTRELINE OVERLINEaWAVY OVERLINEaDOUBLE WAVY OVERLINEaDASHED LOW LINE",
      "aCENTRELINE LOW LINEaWAVY LOW LINEaSMALL COMMAbIDEOGRAPHIC COMMAbFULL STOP"]⟩,
    ⟨0xfe54, ["aSMALL SEMICOLONbCOLONbQUESTION MARKbEXCLAMATION MARKbEM DASHbLEFT PARENTHESIS",
      "bRIGHT PARENTHESISbLEFT CURLY BRACKETbRIGHT CURLY BRACKETbLEFT TORTOISE SHELL BRACKET",
      "bRIGHT TORTOISE SHELL BRACKETbNUMBER SIGNbAMPERSANDbASTERISKbPLUS SIGNbHYPHEN-MINUS",
      "bLESS-THAN SIGNbGREATER-THAN SIGNbEQUALS SIGN"]⟩,
    ⟨0xfe68, ["aSMALL REVERSE SOLIDUSbDOLLAR SIGNbPERCENT SIGNbCOMMERCIAL AT"]⟩,
    ⟨0xfe70, ["aARABIC FATHATAN ISOLATED FORMbTATWEEL WITH FATHATAN ABOVEbDAMMATAN ISOLATED FORM",
      "bTAIL FRAGMENTbKASRATAN ISOLATED FORM"]⟩,
    ⟨0xfe76, ["aARABIC FATHA ISOLATED FORMcMEDIAL FORMbDAMMA ISOLATED FORMcMEDIAL FORM",
      "bKASRA ISOLATED FORMcMEDIAL FORMbSHADDA ISOLATED FORMcMEDIAL FORMbSUKUN ISOLATED FORM",
      "cMEDIAL FORMbLETTER HAMZA ISOLATED FORMcALEF WITH MADDA ABOVE ISOLATED FORMgFINAL FORM",
      "eHAMZA ABOVE ISOLATED FORMgFINAL FORMcWAW WITH HAMZA ABOVE ISOLATED FORMgFINAL FORM",
      "cALEF WITH HAMZA BELOW ISOLATED FORMgFINAL FORMcYEH WITH HAMZA ABOVE ISOLATED FORM",
      "gFINAL FORMgINITIAL FORMgMEDIAL FORMcALEF ISOLATED FORMdFINAL FORMcBEH ISOLATED FORM",
      "dFINAL FORMdINITIAL FORMdMEDIAL FORMcTEH MARBUTA ISOLATED FORMeFINAL FORMdISOLATED FORM",
      "dFINAL FORMdINITIAL FORMdMEDIAL FORMcTHEH ISOLATED FORMdFINAL FORMdINITIAL FORM",
      "dMEDIAL FORMcJEEM ISOLATED FORMdFINAL FORMdINITIAL FORMdMEDIAL FORMcHAH ISOLATED FORM",
      "dFINAL FORMdINITIAL FORMdMEDIAL FORMcKHAH ISOLATED FORMdFINAL FORMdINITIAL FORM",
      "dMEDIAL FORMcDAL ISOLATED FORMdFINAL FORMcTHAL ISOLATED FORMdFINAL FORM",
      "cREH ISOLATED FORMdFINAL FORMcZAIN ISOLATED FORMdFINAL FORMcSEEN ISOLATED FORM",
      "dFINAL FORMdINITIAL FORMdMEDIAL FORMcSHEEN ISOLATED FORMdFINAL FORMdINITIAL FORM",
      "dMEDIAL FORMcSAD ISOLATED FORMdFINAL FORMdINITIAL FORMdMEDIAL FORMcDAD ISOLATED FORM",
      "dFINAL FORMdINITIAL FORMdMEDIAL FORMcTAH ISOLATED FORMdFINAL FORMdINITIAL FORM",
      "dMEDIAL FORMcZAH ISOLATED FORMdFINAL FORMdINITIAL FORMdMEDIAL FORMcAIN ISOLATED FORM",
      "dFINAL FORMdINITIAL FORMdMEDIAL FORMcGHAIN ISOLATED FORMdFINAL FORMdINITIAL FORM",
      "dMEDIAL FORMcFEH ISOLATED FORMdFINAL FORMdINITIAL FORMdMEDIAL FORMcQAF ISOLATED FORM",
      "dFINAL FORMdINITIAL FORMdMEDIAL FORMcKAF ISOLATED FORMdFINAL FORMdINITIAL FORM",
      "dMEDIAL FORMcLAM ISOLATED FORMdFINAL FORMdINITIAL FORMdMEDIAL FORMcMEEM ISOLATED FORM",
      "dFINAL FORMdINITIAL FORMdMEDIAL FORMcNOON ISOLATED FORMdFINAL FORMdINITIAL FORM",
      "dMEDIAL FORMcHEH ISOLATED FORMdFINAL FORMdINITIAL FORMdMEDIAL FORMcWAW ISOLATED FORM",
      "dFINAL FORMcALEF MAKSURA ISOLATED FORMeFINAL FORMcYEH ISOLATED FORMdFINAL FORM",
      "dINITIAL FORMdMEDIAL FORMbLIGATURE LAM WITH ALEF WITH MADDA ABOVE ISOLATED FORM",
      "iFINAL FORMgHAMZA ABOVE ISOLATED FORMiFINAL FORMhBELOW ISOLATED FORMiFINAL FORM",
      "fISOLATED FORMfFINAL FORM"]⟩,
    ⟨0xfeff, ["aZERO WIDTH NO-BREAK SPACE"]⟩,
    ⟨0xff01, ["aFULLWIDTH EXCLAMATION MARKbQUOTATION MARKbNUMBER SIGNbDOLLAR SIGNbPERCENT SIGN",
      "bAMPERSANDbAPOSTROPHEbLEFT PARENTHESISbRIGHT PARENTHESISbASTERISKbPLUS SIGNbCOMMA",
      "bHYPHEN-MINUSbFULL STOPbSOLIDUSbDIGIT ZEROcONEcTWOcTHREEcFOURcFIVEcSIXcSEVENcEIGHTcNINE",
      "bCOLONbSEMICOLONbLESS-THAN SIGNbEQUALS SIGNbGREATER-THAN SIGNbQUESTION MARK",
      "bCOMMERCIAL ATbLATIN CAPITAL LETTER AeBeCeDeEeFeGeHeIeJeKeLeMeNeOePeQeReSeTeUeVeWeXeYeZ",
      "bLEFT SQUARE BRACKETbREVERSE SOLIDUSbRIGHT SQUARE BRACKETbCIRCUMFLEX ACCENTbLOW LINE",
      "bGRAVE ACCENTbLATIN SMALL LETTER AeBeCeDeEeFeGeHeIeJeKeLeMeNeOePeQeReSeTeUeVeWeXeYeZ",
      "bLEFT CURLY BRACKETbVERTICAL LINEbRIGHT CURLY BRACKETbTILDEbLEFT WHITE PARENTHESIS",
      "bRIGHT WHITE PARENTHESISaHALFWIDTH IDEOGRAPHIC FULL STOPbLEFT CORNER BRACKET",
      "bRIGHT CORNER BRACKETbIDEOGRAPHIC COMMAbKATAKANA MIDDLE DOTcLETTER WOdSMALL AeIeUeEeO",
      "eYAeYUeYOeTUbKATAKANA-HIRAGANA PROLONGED SOUND MARKbKATAKANA LETTER AdIdUdEdOdKAdKIdKU",
      "dKEdKOdSAdSIdSUdSEdSOdTAdTIdTUdTEdTOdNAdNIdNUdNEdNOdHAdHIdHUdHEdHOdMAdMIdMUdMEdMOdYAdYU",
      "dYOdRAdRIdRUdREdROdWAdNcVOICED SOUND MARKcSEMI-VOICED SOUND MARKbHANGUL FILLER",
      "cLETTER KIYEOKdSSANGKIYEOKdKIYEOK-SIOSdNIEUNdNIEUN-CIEUCdNIEUN-HIEUHdTIKEUTdSSANGTIKEUT",
      "dRIEULdRIEUL-KIYEOKdRIEUL-MIEUMdRIEUL-PIEUPdRIEUL-SIOSdRIEUL-THIEUTHdRIEUL-PHIEUPH",
      "dRIEUL-HIEUHdMIEUMdPIEUPdSSANGPIEUPdPIEUP-SIOSdSIOSdSSANGSIOSdIEUNGdCIEUCdSSANGCIEUC",
      "dCHIEUCHdKHIEUKHdTHIEUTHdPHIEUPHdHIEUH"]⟩,
    ⟨0xffc2, ["aHALFWIDTH HANGUL LETTER AdAEdYAdYAEdEOdE"]⟩,
    ⟨0xffca, ["aHALFWIDTH HANGUL LETTER YEOdYEdOdWAdWAEdOE"]⟩,
    ⟨0xffd2, ["aHALFWIDTH HANGUL LETTER YOdUdWEOdWEdWIdYU"]⟩,
    ⟨0xffda, ["aHALFWIDTH HANGUL LETTER EUdYIdI"]⟩,
    ⟨0xffe0, ["aFULLWIDTH CENT SIGNbPOUND SIGNbNOT SIGNbMACRONbBROKEN BARbYEN SIGNbWON SIGN"]⟩,
    ⟨0xffe8, ["aHALFWIDTH FORMS LIGHT VERTICALbLEFTWARDS ARROWbUPWARDS ARROWbRIGHTWARDS ARROW",
      "bDOWNWARDS ARROWbBLACK SQUAREbWHITE CIRCLE"]⟩,
    ⟨0xfff9, ["aINTERLINEAR ANNOTATION ANCHORcSEPARATORcTERMINATORaOBJECT REPLACEMENT CHARACTER",
      "aREPLACEMENT CHARACTER"]⟩]

def eastAsianNames : List NameRun :=
  namesFrom2C00 ++ namesFrom2E9B ++ namesFrom3220 ++ namesFromA4D0 ++ namesFromA7D0 ++
    namesFromF900 ++ namesFromFB46 ++ namesFromFBD3 ++ namesFromFD92

end ModuleGlue.Text
