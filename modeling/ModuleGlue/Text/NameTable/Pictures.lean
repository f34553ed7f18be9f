import ModuleGlue.Text.NameTable.Basic

/-!
Contract: the names of notations and pictures.

Owns: the names, in runs of characters that follow each other.

Does not own: how the names are looked up.
-/

namespace ModuleGlue.Text

def namesFrom1CF00 : List NameRun :=
  [⟨0x1cf00, ["aZNAMENNY COMBINING MARK GORAZDO NIZKO S KRYZHEM ON LEFTdNIZKO S KRYZHEM ON LEFT",
      "dTSATA ON LEFTdGORAZDO NIZKO ON LEFTdNIZKO ON LEFTdSREDNE ON LEFTdMALO POVYSHE ON LEFT",
      "dPOVYSHE ON LEFTdVYSOKO ON LEFTdMALO POVYSHE S KHOKHLOM ON LEFT",
      "dPOVYSHE S KHOKHLOM ON LEFTdVYSOKO S KHOKHLOM ON LEFTdGORAZDO NIZKO S KRYZHEM ON RIGHT",
      "dNIZKO S KRYZHEM ON RIGHTdTSATA ON RIGHTdGORAZDO NIZKO ON RIGHTdNIZKO ON RIGHT",
      "dSREDNE ON RIGHTdMALO POVYSHE ON RIGHTdPOVYSHE ON RIGHTdVYSOKO ON RIGHT",
      "dMALO POVYSHE S KHOKHLOM ON RIGHTdPOVYSHE S KHOKHLOM ON RIGHT",
      "dVYSOKO S KHOKHLOM ON RIGHTdTSATA S KRYZHEMdMALO POVYSHE S KRYZHEMdSTRANNO MALO POVYSHE",
      "dPOVYSHE S KRYZHEMeSTRANNOdVYSOKO S KRYZHEMdMALO POVYSHE STRANNOdGORAZDO VYSOKOdZELOdON",
      "dRAVNOdTIKHAYAdBORZAYAdUDARKAdPODVERTKAdLOMKAdKUPNAYAdKACHKAdZEVOKdSKOBAdRAZSEKA",
      "dKRYZH ON LEFT"]⟩,
    ⟨0x1cf30, ["aZNAMENNY COMBINING TONAL RANGE MARK MRACHNOfSVETLOfTRESVETLOcMARK ZADERZHKA",
      "dDEMESTVENNY ZADERZHKAdOTSECHKAdPODCHASHIEeWITH VERTICAL STROKEdCHASHKAePOLNAYA",
      "dOBLACHKOdSOROCHYA NOZHKAdTOCHKAdDVOETOCHIEcATTACHING VERTICAL OMETcMARK CURVED OMET",
      "dKRYZHcLOWER TONAL RANGE INDICATORbPRIZNAK MODIFIER LEVEL-2dLEVEL-3dDIRECTION FLIP",
      "dKRYZHdROG"]⟩,
    ⟨0x1cf50, ["aZNAMENNY NEUME KRYUKdTIKHYcPARAKLITcDVA V CHELNUcKLYUCHcZANOZHEKcSTOPITSA",
      "dS OCHKOMcPEREVODKAdNEPOSTOYANNAYAcSTOPITSA WITH SOROCHYA NOZHKAcCHELYUSTKAcPALKA",
      "cZAPYATAYAcGOLUBCHIK BORZYdTIKHYdMRACHNYdSVETLYdTRESVETLYcVRAKHIYA PROSTAYAdMRACHNAYA",
      "dSVETLAYAdTRESVETLAYAdKLYUCHEVAYA PROSTAYAeMRACHNAYAeSVETLAYAeTRESVETLAYA",
      "cDOUBLE ZAPYATAYAcREVERSED CHELYUSTKAcDERBITSAcKHAMILOcCHASHKAcPODCHASHIE",
      "cSKAMEYTSA MRACHNAYAdSVETLAYAdTRESVETLAYAdTIKHAYAcDEMESTVENNY KLYUCH",
      "cSKAMEYTSA KLYUCHEVAYA SVETLAYAdKLYUCHENEPOSTOYANNAYAdKLYUCHEVAYA TIKHAYA",
      "dDVOECHELNAYA PROSTAYAeSVETLAYAeNEPOSTOYANNAYAeKLYUCHEVAYAcSLOZHITIEdS ZAPYATOY",
      "dZAKRYTOEdS KRYZHEMcKRYZHcROGcFITAcKOBYLAcZMEYTSAcSTATYAdS ZAPYATOYeKRYZHEM",
      "eZAPYATOY I KRYZHEMeKRYZHEM I ZAPYATOYdZAKRYTAYAeS ZAPYATOYdS ROGOMeDVUMYA ZAPYATYMI",
      "eZAPYATOY I PODCHASHIEMcPOLKULIZMYcSTATYA NEPOSTOYANNAYAcSTRELA PROSTAYAdMRACHNOTIKHAYA",
      "dKRYZHEVAYAdPOLUPOVODNAYAdPOVODNAYAdNEPOSTOYANNAYAdKLYUCHEPOVODNAYA",
      "dKLYUCHENEPOSTOYANNAYAdTIKHAYA PUTNAYAdDVOECHELNAYAdDVOECHELNOKRYZHEVAYA",
      "dDVOECHELNOPOVODNAYAdDVOECHELNAYA KLYUCHEVAYAdDVOECHELNOPOVODNAYA KLYUCHEVAYA",
      "dGROMNAYA WITH SINGLE ZAPYATAYAdGROMOPOVODNAYA WITH SINGLE ZAPYATAYAdGROMNAYA",
      "dGROMOPOVODNAYAeWITH DOUBLE ZAPYATAYAdGROMOKRYZHEVAYAePOVODNAYAcMECHIKdPOVODNY",
      "dKLYUCHEVOYdKLYUCHEPOVODNYdKLYUCHENEPOSTOYANNYcSTRELA TRYASOGLASNAYAdTRYASOPOVODNAYA",
      "dTRYASOSTRELNAYAcOSOKAdSVETLAYAdTRESVETLAYAdKRYUKOVAYA SVETLAYAdKLYUCHEVAYA SVETLAYA",
      "eNEPOSTOYANNAYAcSTRELA KRYUKOVAYAePOVODNAYAeGROMNAYA WITH SINGLE ZAPYATAYA",
      "eGROMOPOVODNAYA WITH SINGLE ZAPYATAYAeGROMNAYAeGROMOPOVODNAYAfWITH DOUBLE ZAPYATAYA",
      "eGROMOKRYZHEVAYAfPOVODNAYAeTRYASKAcKUFISMAcOBLAKOcDUDAcNEMKAcPAUK"]⟩,
    ⟨0x1d000, ["aBYZANTINE MUSICAL SYMBOL PSILIdDASEIAdPERISPOMENIdOXEIA EKFONITIKONeDIPLI",
      "dVAREIA EKFONITIKONeDIPLIdKATHISTIdSYRMATIKIdPARAKLITIKIdYPOKRISISeDIPLIdKREMASTI",
      "dAPESO EKFONITIKONdEXO EKFONITIKONdTELEIAdKENTIMATAdAPOSTROFOSeDIPLIdSYNEVMAdTHITA",
      "dOLIGON ARCHAIONdGORGON ARCHAIONdPSILONdCHAMILONdVATHYdISON ARCHAIONdKENTIMA ARCHAION",
      "dKENTIMATA ARCHAIONdSAXIMATAdPARICHONdSTAVROS APODEXIAdOXEIAI ARCHAIONdVAREIAI ARCHAION",
      "dAPODERMA ARCHAIONdAPOTHEMAdKLASMAdREVMAdPIASMA ARCHAIONdTINAGMAdANATRICHISMAdSEISMA",
      "dSYNAGMA ARCHAIONeMETA STAVROUdOYRANISMA ARCHAIONdTHEMAdLEMOIdDYOdTRIAdTESSERA",
      "dKRATIMATAdAPESO EXO NEOdFTHORA ARCHAIONdIMIFTHORAdTROMIKON ARCHAIONdKATAVA TROMIKON",
      "dPELASTONdPSIFISTONdKONTEVMAdCHOREVMA ARCHAIONdRAPISMAdPARAKALESMA ARCHAION",
      "dPARAKLITIKI ARCHAIONdICHADINdNANAdPETASMAdKONTEVMA ALLOdTROMIKON ALLOdSTRAGGISMATA",
      "dGRONTHISMATAdISON NEOdOLIGON NEOdOXEIA NEOdPETASTIdKOUFISMAdPETASTOKOUFISMA",
      "dKRATIMOKOUFISMAdPELASTON NEOdKENTIMATA NEO ANOdKENTIMA NEO ANOdYPSILIdAPOSTROFOS NEO",
      "dAPOSTROFOI SYNDESMOS NEOdYPORROIdKRATIMOYPORROONdELAFRONdCHAMILIdMIKRON ISON",
      "dVAREIA NEOdPIASMA NEOdPSIFISTON NEOdOMALONdANTIKENOMAdLYGISMAdPARAKLITIKI NEO",
      "dPARAKALESMA NEOdETERON PARAKALESMAdKYLISMAdANTIKENOKYLISMAdTROMIKON NEOdEKSTREPTON",
      "dSYNAGMA NEOdSYRMAdCHOREVMA NEOdEPEGERMAdSEISMA NEOdXIRON KLASMAdTROMIKOPSIFISTON",
      "dPSIFISTOLYGISMAdTROMIKOLYGISMAdTROMIKOPARAKALESMAdPSIFISTOPARAKALESMAdTROMIKOSYNAGMA",
      "dPSIFISTOSYNAGMAdGORGOSYNTHETONdARGOSYNTHETONdETERON ARGOSYNTHETONdOYRANISMA NEO",
      "dTHEMATISMOS ESOeEXOdTHEMA APLOUNdTHES KAI APOTHESdKATAVASMAdENDOFONONdYFEN KATOeANO",
      "dSTAVROSdKLASMA ANOdDIPLI ARCHAIONdKRATIMA ARCHAIONeALLOeNEOdAPODERMA NEOdAPLIdDIPLI",
      "dTRIPLIdTETRAPLIdKORONISdLEIMMA ENOS CHRONOUeDYO CHRONONeTRION CHRONONeTESSARON CHRONON",
      "eIMISEOS CHRONOUdGORGON NEO ANOePARESTIGMENON ARISTERAfDEXIAdDIGORGON",
      "ePARESTIGMENON ARISTERA KATOgANOfDEXIAdTRIGORGONdARGONdIMIDIARGONdDIARGON",
      "dAGOGI POLI ARGIeARGOTERIeARGIeMETRIAeMESIeGORGIeGORGOTERIePOLI GORGI",
      "dMARTYRIA PROTOS ICHOSeALLI PROTOS ICHOSeDEYTEROS ICHOSeALLI DEYTEROS ICHOS",
      "eTRITOS ICHOSeTRIFONIASeTETARTOS ICHOSfLEGETOS ICHOSeLEGETOS ICHOSePLAGIOS ICHOS",
      "dISAKIA TELOUS ICHIMATOSdAPOSTROFOI TELOUS ICHIMATOSdFANEROSIS TETRAFONIASeMONOFONIAS",
      "eDIFONIASdMARTYRIA VARYS ICHOSePROTOVARYS ICHOSePLAGIOS TETARTOS ICHOS",
      "dGORTHMIKON N APLOUNfDIPLOUNdENARXIS KAI FTHORA VOUdIMIFONONdIMIFTHORON",
      "dFTHORA ARCHAION DEYTEROU ICHOUeDIATONIKI PAfNANAeNAOS ICHOSeDIATONIKI DI",
      "eSKLIRON DIATONON DIeDIATONIKI KEfZOfNI KATOgANOeMALAKON CHROMA DIFONIASgMONOFONIAS",
      "dFHTORA SKLIRON CHROMA VASISdFTHORA SKLIRON CHROMA SYNAFIeNENANOdCHROA ZYGOSeKLITON",
      "eSPATHIdFTHORA I YFESIS TETARTIMORIONeENARMONIOS ANTIFONIAdYFESIS TRITIMORION",
      "dDIESIS TRITIMORIONeTETARTIMORIONeAPLI DYO DODEKATAeMONOGRAMMOS TESSERA DODEKATA",
      "eDIGRAMMOS EX DODEKATAeTRIGRAMMOS OKTO DODEKATAdYFESIS APLI DYO DODEKATA",
      "eMONOGRAMMOS TESSERA DODEKATAeDIGRAMMOS EX DODEKATAeTRIGRAMMOS OKTO DODEKATA",
      "dGENIKI DIESISeYFESISdDIASTOLI APLI MIKRIfMEGALIeDIPLIeTHESEOSdSIMANSIS THESEOSfDISIMOU",
      "fTRISIMOUfTETRASIMOUeARSEOSfDISIMOUfTRISIMOUfTETRASIMOUdDIGRAMMA GGdDIFTOGGOS OUdSTIGMA",
      "dARKTIKO PAeVOUeGAeDIeKEeZOeNIdKENTIMATA NEO MESOdKENTIMA NEO MESOdKENTIMATA NEO KATO",
      "dKENTIMA NEO KATOdKLASMA KATOdGORGON NEO KATO"]⟩,
    ⟨0x1d100, ["aMUSICAL SYMBOL SINGLE BARLINEcDOUBLE BARLINEcFINAL BARLINE",
      "cREVERSE FINAL BARLINEcDASHED BARLINEcSHORT BARLINEcLEFT REPEAT SIGNcRIGHT REPEAT SIGN",
      "cREPEAT DOTScDAL SEGNOcDA CAPOcSEGNOcCODAcREPEATED FIGURE-1dFIGURE-2dFIGURE-3cFERMATA",
      "dBELOWcBREATH MARKcCAESURAcBRACEcBRACKETcONE-LINE STAFFcTWO-LINE STAFFcTHREE-LINE STAFF",
      "cFOUR-LINE STAFFcFIVE-LINE STAFFcSIX-LINE STAFFcSIX-STRING FRETBOARD",
      "cFOUR-STRING FRETBOARDcG CLEFeOTTAVA ALTAfBASSAcC CLEFcF CLEFeOTTAVA ALTAfBASSA",
      "cDRUM CLEF-1dCLEF-2"]⟩,
    ⟨0x1d129, ["aMUSICAL SYMBOL MULTIPLE MEASURE RESTcDOUBLE SHARPdFLATcFLAT UPdDOWNcNATURAL UP",
      "dDOWNcSHARP UPdDOWNcQUARTER TONE SHARPeFLATcCOMMON TIMEcCUT TIMEcOTTAVA ALTAdBASSA",
      "cQUINDICESIMA ALTAdBASSAcMULTI RESTcWHOLE RESTcHALF RESTcQUARTER RESTcEIGHTH REST",
      "cSIXTEENTH RESTcTHIRTY-SECOND RESTcSIXTY-FOURTH RESTcONE HUNDRED TWENTY-EIGHTH REST",
      "cX NOTEHEADcPLUS NOTEHEADcCIRCLE X NOTEHEADcSQUARE NOTEHEAD WHITEeBLACK",
      "cTRIANGLE NOTEHEAD UP WHITEfBLACKeLEFT WHITEfBLACKeRIGHT WHITEfBLACKeDOWN WHITEfBLACK",
      "eUP RIGHT WHITEgBLACKcMOON NOTEHEAD WHITEeBLACKcTRIANGLE-ROUND NOTEHEAD DOWN WHITE",
      "fBLACKcPARENTHESIS NOTEHEADcVOID NOTEHEADcNOTEHEAD BLACKcNULL NOTEHEAD",
      "cCLUSTER NOTEHEAD WHITEeBLACKcBREVEcWHOLE NOTEcHALF NOTEcQUARTER NOTEcEIGHTH NOTE",
      "cSIXTEENTH NOTEcTHIRTY-SECOND NOTEcSIXTY-FOURTH NOTEcONE HUNDRED TWENTY-EIGHTH NOTE",
      "cCOMBINING STEMdSPRECHGESANG STEMdTREMOLO-1dTREMOLO-2dTREMOLO-3cFINGERED TREMOLO-1",
      "dTREMOLO-2dTREMOLO-3cCOMBINING AUGMENTATION DOTdFLAG-1dFLAG-2dFLAG-3dFLAG-4dFLAG-5",
      "cBEGIN BEAMcEND BEAMcBEGIN TIEcEND TIEcBEGIN SLURcEND SLURcBEGIN PHRASEcEND PHRASE",
      "cCOMBINING ACCENTdSTACCATOdTENUTOdSTACCATISSIMOdMARCATOdMARCATO-STACCATO",
      "dACCENT-STACCATOdLOUREcARPEGGIATO UPdDOWNcCOMBINING DOITdRIPdFLIPdSMEARdBEND",
      "dDOUBLE TONGUEdTRIPLE TONGUEcRINFORZANDOcSUBITOcZcPIANOcMEZZOcFORTEcCRESCENDO",
      "cDECRESCENDOcGRACE NOTE SLASHeNO SLASHcTRcTURNcINVERTED TURNcTURN SLASHdUP",
      "cORNAMENT STROKE-1dSTROKE-2dSTROKE-3dSTROKE-4dSTROKE-5dSTROKE-6dSTROKE-7dSTROKE-8",
      "dSTROKE-9dSTROKE-10dSTROKE-11cHAUPTSTIMMEcNEBENSTIMMEcEND OF STIMMEcDEGREE SLASH",
      "cCOMBINING DOWN BOWdUP BOWdHARMONICdSNAP PIZZICATOcPEDAL MARKdUP MARKcHALF PEDAL MARK",
      "cGLISSANDO UPdDOWNcWITH FINGERNAILScDAMPdALLcMAXIMAcLONGAcBREVIScSEMIBREVIS WHITEdBLACK",
      "cMINIMAdBLACKcSEMIMINIMA WHITEdBLACKcFUSA WHITEdBLACKcLONGA PERFECTA REST",
      "dIMPERFECTA RESTcBREVIS RESTcSEMIBREVIS RESTcMINIMA RESTcSEMIMINIMA REST",
      "cTEMPUS PERFECTUM CUM PROLATIONE PERFECTAgIMPERFECTAgPERFECTA DIMINUTION-1",
      "dIMPERFECTUM CUM PROLATIONE PERFECTAgIMPERFECTAhDIMINUTION-1hDIMINUTION-2hDIMINUTION-3",
      "cCROIXcGREGORIAN C CLEFdF CLEFcSQUARE BcVIRGAcPODATUScCLIVIScSCANDICUScCLIMACUS",
      "cTORCULUScPORRECTUSdFLEXUScSCANDICUS FLEXUScTORCULUS RESUPINUScPES SUBPUNCTIS",
      "cKIEVAN C CLEFdEND OF PIECEdFINAL NOTEdRECITATIVE MARKdWHOLE NOTEdHALF NOTE",
      "dQUARTER NOTE STEM DOWNgUPdEIGHTH NOTE STEM DOWNgUPdFLAT SIGNcSORIcKORON"]⟩]

def namesFrom1D200 : List NameRun :=
  [⟨0x1d200, ["aGREEK VOCAL NOTATION SYMBOL-1dSYMBOL-2dSYMBOL-3dSYMBOL-4dSYMBOL-5dSYMBOL-6",
      "dSYMBOL-7dSYMBOL-8dSYMBOL-9dSYMBOL-10dSYMBOL-11dSYMBOL-12dSYMBOL-13dSYMBOL-14dSYMBOL-15",
      "dSYMBOL-16dSYMBOL-17dSYMBOL-18dSYMBOL-19dSYMBOL-20dSYMBOL-21dSYMBOL-22dSYMBOL-23",
      "dSYMBOL-24dSYMBOL-50dSYMBOL-51dSYMBOL-52dSYMBOL-53dSYMBOL-54",
      "bINSTRUMENTAL NOTATION SYMBOL-1dSYMBOL-2dSYMBOL-4dSYMBOL-5dSYMBOL-7dSYMBOL-8dSYMBOL-11",
      "dSYMBOL-12dSYMBOL-13dSYMBOL-14dSYMBOL-17dSYMBOL-18dSYMBOL-19dSYMBOL-23dSYMBOL-24",
      "dSYMBOL-25dSYMBOL-26dSYMBOL-27dSYMBOL-29dSYMBOL-30dSYMBOL-32dSYMBOL-36dSYMBOL-37",
      "dSYMBOL-38dSYMBOL-39dSYMBOL-40dSYMBOL-42dSYMBOL-43dSYMBOL-45dSYMBOL-47dSYMBOL-48",
      "dSYMBOL-49dSYMBOL-50dSYMBOL-51dSYMBOL-52dSYMBOL-53dSYMBOL-54",
      "aCOMBINING GREEK MUSICAL TRISEMEdTETRASEMEdPENTASEMEaGREEK MUSICAL LEIMMA"]⟩,
    ⟨0x1d2e0, ["aMAYAN NUMERAL ZEROcONEcTWOcTHREEcFOURcFIVEcSIXcSEVENcEIGHTcNINEcTENcELEVEN",
      "cTWELVEcTHIRTEENcFOURTEENcFIFTEENcSIXTEENcSEVENTEENcEIGHTEENcNINETEEN"]⟩,
    ⟨0x1d300, ["aMONOGRAM FOR EARTHaDIGRAM FOR HEAVENLY EARTHcHUMAN EARTHcEARTHLY HEAVENdHUMAN",
      "cEARTHaTETRAGRAM FOR CENTREcFULL CIRCLEcMIREDcBARRIERcKEEPING SMALLcCONTRARIETYcASCENT",
      "cOPPOSITIONcBRANCHING OUTcDEFECTIVENESS OR DISTORTIONcDIVERGENCEcYOUTHFULNESScINCREASE",
      "cPENETRATIONcREACHcCONTACTcHOLDING BACKcWAITINGcFOLLOWINGcADVANCEcRELEASEcRESISTANCE",
      "cEASEcJOYcCONTENTIONcENDEAVOURcDUTIEScCHANGEcDECISIVENESScBOLD RESOLUTIONcPACKING",
      "cLEGIONcCLOSENESScKINSHIPcGATHERINGcSTRENGTHcPURITYcFULLNESScRESIDENCEcLAW OR MODEL",
      "cRESPONSEcGOING TO MEETcENCOUNTERScSTOVEcGREATNESScENLARGEMENTcPATTERNcRITUALcFLIGHT",
      "cVASTNESS OR WASTINGcCONSTANCYcMEASUREcETERNITYcUNITYcDIMINISHMENTcCLOSED MOUTH",
      "cGUARDEDNESScGATHERING INcMASSINGcACCUMULATIONcEMBELLISHMENTcDOUBTcWATCHcSINKINGcINNER",
      "cDEPARTUREcDARKENINGcDIMMINGcEXHAUSTIONcSEVERANCEcSTOPPAGEcHARDNESScCOMPLETIONcCLOSURE",
      "cFAILUREcAGGRAVATIONcCOMPLIANCEcON THE VERGEcDIFFICULTIEScLABOURINGcFOSTERING"]⟩,
    ⟨0x1d360, ["aCOUNTING ROD UNIT DIGIT ONEeTWOeTHREEeFOUReFIVEeSIXeSEVENeEIGHTeNINE",
      "cTENS DIGIT ONEeTWOeTHREEeFOUReFIVEeSIXeSEVENeEIGHTeNINEaIDEOGRAPHIC TALLY MARK ONEdTWO",
      "dTHREEdFOURdFIVEaTALLY MARK ONEcFIVE"]⟩,
    ⟨0x1d400, ["aMATHEMATICAL BOLD CAPITAL AdBdCdDdEdFdGdHdIdJdKdLdMdNdOdPdQdRdSdTdUdVdWdXdYdZ",
      "cSMALL AdBdCdDdEdFdGdHdIdJdKdLdMdNdOdPdQdRdSdTdUdVdWdXdYdZbITALIC CAPITAL AdBdCdDdEdFdG",
      "dHdIdJdKdLdMdNdOdPdQdRdSdTdUdVdWdXdYdZcSMALL AdBdCdDdEdFdG"]⟩,
    ⟨0x1d456, ["aMATHEMATICAL ITALIC SMALL IdJdKdLdMdNdOdPdQdRdSdTdUdVdWdXdYdZ",
      "bBOLD ITALIC CAPITAL AeBeCeDeEeFeGeHeIeJeKeLeMeNeOePeQeReSeTeUeVeWeXeYeZdSMALL AeBeCeD",
      "eEeFeGeHeIeJeKeLeMeNeOePeQeReSeTeUeVeWeXeYeZbSCRIPT CAPITAL A"]⟩,
    ⟨0x1d49e, ["aMATHEMATICAL SCRIPT CAPITAL CdD"]⟩,
    ⟨0x1d4a2, ["aMATHEMATICAL SCRIPT CAPITAL G"]⟩,
    ⟨0x1d4a5, ["aMATHEMATICAL SCRIPT CAPITAL JdK"]⟩,
    ⟨0x1d4a9, ["aMATHEMATICAL SCRIPT CAPITAL NdOdPdQ"]⟩,
    ⟨0x1d4ae, ["aMATHEMATICAL SCRIPT CAPITAL SdTdUdVdWdXdYdZcSMALL AdBdCdD"]⟩,
    ⟨0x1d4bb, ["aMATHEMATICAL SCRIPT SMALL F"]⟩,
    ⟨0x1d4bd, ["aMATHEMATICAL SCRIPT SMALL HdIdJdKdLdMdN"]⟩,
    ⟨0x1d4c5, ["aMATHEMATICAL SCRIPT SMALL PdQdRdSdTdUdVdWdXdYdZbBOLD SCRIPT CAPITAL AeBeCeDeEeF",
      "eGeHeIeJeKeLeMeNeOePeQeReSeTeUeVeWeXeYeZdSMALL AeBeCeDeEeFeGeHeIeJeKeLeMeNeOePeQeReSeT",
      "eUeVeWeXeYeZbFRAKTUR CAPITAL AdB"]⟩,
    ⟨0x1d507, ["aMATHEMATICAL FRAKTUR CAPITAL DdEdFdG"]⟩,
    ⟨0x1d50d, ["aMATHEMATICAL FRAKTUR CAPITAL JdKdLdMdNdOdPdQ"]⟩,
    ⟨0x1d516, ["aMATHEMATICAL FRAKTUR CAPITAL SdTdUdVdWdXdY"]⟩,
    ⟨0x1d51e, ["aMATHEMATICAL FRAKTUR SMALL AdBdCdDdEdFdGdHdIdJdKdLdMdNdOdPdQdRdSdTdUdVdWdXdYdZ",
      "bDOUBLE-STRUCK CAPITAL AdB"]⟩,
    ⟨0x1d53b, ["aMATHEMATICAL DOUBLE-STRUCK CAPITAL DdEdFdG"]⟩,
    ⟨0x1d540, ["aMATHEMATICAL DOUBLE-STRUCK CAPITAL IdJdKdLdM"]⟩,
    ⟨0x1d546, ["aMATHEMATICAL DOUBLE-STRUCK CAPITAL O"]⟩,
    ⟨0x1d54a, ["aMATHEMATICAL DOUBLE-STRUCK CAPITAL SdTdUdVdWdXdY"]⟩,
    ⟨0x1d552, ["aMATHEMATICAL DOUBLE-STRUCK SMALL AdBdCdDdEdFdGdHdIdJdKdLdMdNdOdPdQdRdSdTdUdVdW",
      "dXdYdZbBOLD FRAKTUR CAPITAL AeBeCeDeEeFeGeHeIeJeKeLeMeNeOePeQeReSeTeUeVeWeXeYeZdSMALL A",
      "eBeCeDeEeFeGeHeIeJeKeLeMeNeOePeQeReSeTeUeVeWeXeYeZbSANS-SERIF CAPITAL AdBdCdDdEdFdGdHdI",
      "dJdKdLdMdNdOdPdQdRdSdTdUdVdWdXdYdZcSMALL AdBdCdDdEdFdGdHdIdJdKdLdMdNdOdPdQdRdSdTdUdVdW",
      "dXdYdZcBOLD CAPITAL AeBeCeDeEeFeGeHeIeJeKeLeMeNeOePeQeReSeTeUeVeWeXeYeZdSMALL AeBeCeDeE",
      "eFeGeHeIeJeKeLeMeNeOePeQeReSeTeUeVeWeXeYeZcITALIC CAPITAL AeBeCeDeEeFeGeHeIeJeKeLeMeNeO",
      "ePeQeReSeTeUeVeWeXeYeZdSMALL AeBeCeDeEeFeGeHeIeJeKeLeMeNeOePeQeReSeTeUeVeWeXeYeZ",
      "cBOLD ITALIC CAPITAL AfBfCfDfEfFfGfHfIfJfKfLfMfNfOfPfQfRfSfTfUfVfWfXfYfZeSMALL AfBfCfD",
      "fEfFfGfHfIfJfKfLfMfNfOfPfQfRfSfTfUfVfWfXfYfZbMONOSPACE CAPITAL AdBdCdDdEdFdGdHdIdJdKdL",
      "dMdNdOdPdQdRdSdTdUdVdWdXdYdZcSMALL AdBdCdDdEdFdGdHdIdJdKdLdMdNdOdPdQdRdSdTdUdVdWdXdYdZ",
      "bITALIC SMALL DOTLESS IeJ"]⟩,
    ⟨0x1d6a8, ["aMATHEMATICAL BOLD CAPITAL ALPHAdBETAdGAMMAdDELTAdEPSILONdZETAdETAdTHETAdIOTA",
      "dKAPPAdLAMDAdMUdNUdXIdOMICRONdPIdRHOdTHETA SYMBOLdSIGMAdTAUdUPSILONdPHIdCHIdPSIdOMEGA",
      "cNABLAcSMALL ALPHAdBETAdGAMMAdDELTAdEPSILONdZETAdETAdTHETAdIOTAdKAPPAdLAMDAdMUdNUdXI",
      "dOMICRONdPIdRHOdFINAL SIGMAdSIGMAdTAUdUPSILONdPHIdCHIdPSIdOMEGAcPARTIAL DIFFERENTIAL",
      "cEPSILON SYMBOLcTHETA SYMBOLcKAPPA SYMBOLcPHI SYMBOLcRHO SYMBOLcPI SYMBOL",
      "bITALIC CAPITAL ALPHAdBETAdGAMMAdDELTAdEPSILONdZETAdETAdTHETAdIOTAdKAPPAdLAMDAdMUdNUdXI",
      "dOMICRONdPIdRHOdTHETA SYMBOLdSIGMAdTAUdUPSILONdPHIdCHIdPSIdOMEGAcNABLAcSMALL ALPHAdBETA",
      "dGAMMAdDELTAdEPSILONdZETAdETAdTHETAdIOTAdKAPPAdLAMDAdMUdNUdXIdOMICRONdPIdRHO",
      "dFINAL SIGMAdSIGMAdTAUdUPSILONdPHIdCHIdPSIdOMEGAcPARTIAL DIFFERENTIALcEPSILON SYMBOL",
      "cTHETA SYMBOLcKAPPA SYMBOLcPHI SYMBOLcRHO SYMBOLcPI SYMBOLbBOLD ITALIC CAPITAL ALPHA",
      "eBETAeGAMMAeDELTAeEPSILONeZETAeETAeTHETAeIOTAeKAPPAeLAMDAeMUeNUeXIeOMICRONePIeRHO",
      "eTHETA SYMBOLeSIGMAeTAUeUPSILONePHIeCHIePSIeOMEGAdNABLAdSMALL ALPHAeBETAeGAMMAeDELTA",
      "eEPSILONeZETAeETAeTHETAeIOTAeKAPPAeLAMDAeMUeNUeXIeOMICRONePIeRHOeFINAL SIGMAeSIGMAeTAU",
      "eUPSILONePHIeCHIePSIeOMEGAdPARTIAL DIFFERENTIALdEPSILON SYMBOLdTHETA SYMBOL",
      "dKAPPA SYMBOLdPHI SYMBOLdRHO SYMBOLdPI SYMBOLbSANS-SERIF BOLD CAPITAL ALPHAeBETAeGAMMA",
      "eDELTAeEPSILONeZETAeETAeTHETAeIOTAeKAPPAeLAMDAeMUeNUeXIeOMICRONePIeRHOeTHETA SYMBOL",
      "eSIGMAeTAUeUPSILONePHIeCHIePSIeOMEGAdNABLAdSMALL ALPHAeBETAeGAMMAeDELTAeEPSILONeZETA",
      "eETAeTHETAeIOTAeKAPPAeLAMDAeMUeNUeXIeOMICRONePIeRHOeFINAL SIGMAeSIGMAeTAUeUPSILONePHI",
      "eCHIePSIeOMEGAdPARTIAL DIFFERENTIALdEPSILON SYMBOLdTHETA SYMBOLdKAPPA SYMBOLdPHI SYMBOL",
      "dRHO SYMBOLdPI SYMBOLdITALIC CAPITAL ALPHAfBETAfGAMMAfDELTAfEPSILONfZETAfETAfTHETAfIOTA",
      "fKAPPAfLAMDAfMUfNUfXIfOMICRONfPIfRHOfTHETA SYMBOLfSIGMAfTAUfUPSILONfPHIfCHIfPSIfOMEGA",
      "eNABLAeSMALL ALPHAfBETAfGAMMAfDELTAfEPSILONfZETAfETAfTHETAfIOTAfKAPPAfLAMDAfMUfNUfXI",
      "fOMICRONfPIfRHOfFINAL SIGMAfSIGMAfTAUfUPSILONfPHIfCHIfPSIfOMEGAePARTIAL DIFFERENTIAL",
      "eEPSILON SYMBOLeTHETA SYMBOLeKAPPA SYMBOLePHI SYMBOLeRHO SYMBOLePI SYMBOL",
      "bBOLD CAPITAL DIGAMMAcSMALL DIGAMMA"]⟩]

def namesFrom1D7CE : List NameRun :=
  [⟨0x1d7ce, ["aMATHEMATICAL BOLD DIGIT ZEROdONEdTWOdTHREEdFOURdFIVEdSIXdSEVENdEIGHTdNINE",
      "bDOUBLE-STRUCK DIGIT ZEROdONEdTWOdTHREEdFOURdFIVEdSIXdSEVENdEIGHTdNINE",
      "bSANS-SERIF DIGIT ZEROdONEdTWOdTHREEdFOURdFIVEdSIXdSEVENdEIGHTdNINEcBOLD DIGIT ZEROeONE",
      "eTWOeTHREEeFOUReFIVEeSIXeSEVENeEIGHTeNINEbMONOSPACE DIGIT ZEROdONEdTWOdTHREEdFOURdFIVE",
      "dSIXdSEVENdEIGHTdNINEaSIGNWRITING HAND-FIST INDEXbHAND-CIRCLE INDEXbHAND-CUP INDEX",
      "bHAND-OVAL INDEXbHAND-HINGE INDEXbHAND-ANGLE INDEXbHAND-FIST INDEX BENT",
      "bHAND-CIRCLE INDEX BENTbHAND-FIST THUMB UNDER INDEX BENTcINDEX RAISED KNUCKLEdCUPPED",
      "dHINGEDeLOWbHAND-CIRCLE INDEX HINGEbHAND-FIST INDEX MIDDLEbHAND-CIRCLE INDEX MIDDLE",
      "bHAND-FIST INDEX MIDDLE BENTeRAISED KNUCKLESeHINGEDdUP MIDDLE HINGEDdHINGED MIDDLE UP",
      "dMIDDLE CONJOINEDfINDEX BENTfMIDDLE BENTfCUPPEDfHINGEDeCROSSED",
      "bHAND-CIRCLE INDEX MIDDLE CROSSEDbHAND-FIST MIDDLE BENT OVER INDEX",
      "cINDEX BENT OVER MIDDLEdMIDDLE THUMBbHAND-CIRCLE INDEX MIDDLE THUMB",
      "bHAND-FIST INDEX MIDDLE STRAIGHT THUMB BENTeBENT THUMB STRAIGHTeTHUMB BENT",
      "eHINGED SPREAD THUMB SIDEdUP MIDDLE HINGED THUMB SIDEhCONJOINED",
      "dHINGED MIDDLE UP THUMB SIDEdMIDDLE UP SPREAD THUMB FORWARDeTHUMB CUPPEDfCIRCLEDfHOOKED",
      "fHINGEDcTHUMB BETWEEN INDEX MIDDLE STRAIGHTcINDEX MIDDLE CONJOINED THUMB SIDEhCONJOINED",
      "hBENTcMIDDLE THUMB HOOKED INDEX UPcINDEX THUMB HOOKED MIDDLE UP",
      "dMIDDLE CONJOINED HINGED THUMB SIDEeCROSSED THUMB SIDEeCONJOINED THUMB FORWARD",
      "fCUPPED THUMB FORWARDcMIDDLE THUMB CUPPED INDEX UPcINDEX THUMB CUPPED MIDDLE UP",
      "cMIDDLE THUMB CIRCLED INDEX UPgHINGEDcINDEX THUMB ANGLED OUT MIDDLE UPfIN MIDDLE UP",
      "eCIRCLED MIDDLE UPdMIDDLE THUMB CONJOINED HINGEDfANGLED OUTfANGLED",
      "cMIDDLE THUMB ANGLED OUT INDEX UPhCROSSEDfINDEX UPcINDEX THUMB HOOKED MIDDLE HINGED",
      "bHAND-FLAT FOUR FINGERSeBENTeHINGEDeCONJOINEDfSPLITbHAND-CLAW FOUR FINGERS CONJOINED",
      "bHAND-FIST FOUR FINGERS CONJOINED BENTbHAND-HINGE FOUR FINGERS CONJOINED",
      "bHAND-FLAT FIVE FINGERS SPREADcHEEL FIVE FINGERS SPREADcFIVE FINGERS SPREAD FOUR BENT",
      "cHEEL FIVE FINGERS SPREAD FOUR BENTcFIVE FINGERS SPREAD BENT",
      "cHEEL FIVE FINGERS SPREAD BENTcFIVE FINGERS SPREAD THUMB FORWARD",
      "bHAND-CUP FIVE FINGERS SPREADfOPENbHAND-HINGE FIVE FINGERS SPREAD OPEN",
      "bHAND-OVAL FIVE FINGERS SPREADbHAND-FLAT FIVE FINGERS SPREAD HINGEDgTHUMB SIDEgNO THUMB",
      "bHAND-FLATcBETWEEN PALM FACINGScHEELcTHUMB SIDEcHEEL THUMB SIDEcTHUMB BENTdFORWARD",
      "cSPLIT INDEX THUMB SIDEdCENTREeTHUMB SIDEgBENTdLITTLEbHAND-CLAWcTHUMB SIDEcNO THUMB",
      "cTHUMB FORWARDbHAND-HOOK CURLICUEbHAND-HOOKbHAND-CUP OPENbHAND-CUPcOPEN THUMB SIDE",
      "cTHUMB SIDEcOPEN NO THUMBcNO THUMBcOPEN THUMB FORWARDcTHUMB FORWARDbHAND-CURLICUE OPEN",
      "bHAND-CURLICUEbHAND-CIRCLEbHAND-OVALcTHUMB SIDEcNO THUMBcTHUMB FORWARDbHAND-HINGE OPEN",
      "dTHUMB FORWARDbHAND-HINGEcSMALLcOPEN THUMB SIDEcTHUMB SIDEcOPEN NO THUMBcNO THUMB",
      "cTHUMB SIDE TOUCHING INDEXdBETWEEN MIDDLE RINGbHAND-ANGLEbHAND-FIST INDEX MIDDLE RING",
      "bHAND-CIRCLE INDEX MIDDLE RINGbHAND-HINGE INDEX MIDDLE RING",
      "bHAND-ANGLE INDEX MIDDLE RINGbHAND-HINGE LITTLEbHAND-FIST INDEX MIDDLE RING BENT",
      "fCONJOINEDbHAND-HINGE INDEX MIDDLE RING CONJOINEDbHAND-FIST LITTLE DOWNeRIPPLE STRAIGHT",
      "fCURVEDeOTHERS CIRCLEDdUPcTHUMB UNDER LITTLE UPbHAND-CIRCLE LITTLE UP",
      "bHAND-OVAL LITTLE UPbHAND-ANGLE LITTLE UPbHAND-FIST LITTLE RAISED KNUCKLEdBENT",
      "dTOUCHES THUMBdTHUMBbHAND-HINGE LITTLE THUMBbHAND-FIST LITTLE INDEX THUMB",
      "bHAND-HINGE LITTLE INDEX THUMBbHAND-ANGLE LITTLE INDEX THUMB INDEX THUMB OUTgTHUMB",
      "bHAND-FIST LITTLE INDEXbHAND-CIRCLE LITTLE INDEXbHAND-HINGE LITTLE INDEX",
      "bHAND-ANGLE LITTLE INDEXbHAND-FIST INDEX MIDDLE LITTLEbHAND-CIRCLE INDEX MIDDLE LITTLE",
      "bHAND-HINGE INDEX MIDDLE LITTLEcRINGbHAND-ANGLE INDEX MIDDLE LITTLE",
      "bHAND-FIST INDEX MIDDLE CROSS LITTLEbHAND-CIRCLE INDEX MIDDLE CROSS LITTLE",
      "bHAND-FIST RING DOWNbHAND-HINGE RING DOWN INDEX THUMB HOOK MIDDLE",
      "bHAND-ANGLE RING DOWN MIDDLE THUMB INDEX CROSSbHAND-FIST RING UPdRAISED KNUCKLEdLITTLE",
      "bHAND-CIRCLE RING LITTLEbHAND-OVAL RING LITTLEbHAND-ANGLE RING LITTLE",
      "bHAND-FIST RING MIDDLEeCONJOINEDeRAISED KNUCKLESdINDEXdTHUMBbHAND-HOOK RING THUMB",
      "bHAND-FIST INDEX RING LITTLEbHAND-CIRCLE INDEX RING LITTLE",
      "bHAND-CURLICUE INDEX RING LITTLE ONbHAND-HOOK INDEX RING LITTLE OUTfINfUNDER",
      "bHAND-CUP INDEX RING LITTLEbHAND-HINGE INDEX RING LITTLE",
      "bHAND-ANGLE INDEX RING LITTLE OUTeLITTLEbHAND-FIST MIDDLE DOWNbHAND-HINGE MIDDLE",
      "bHAND-FIST MIDDLE UPbHAND-CIRCLE MIDDLE UPbHAND-FIST MIDDLE RAISED KNUCKLE",
      "dUP THUMB SIDEbHAND-HOOK MIDDLE THUMBbHAND-FIST MIDDLE THUMB LITTLEdLITTLEdRING LITTLE",
      "bHAND-CIRCLE MIDDLE RING LITTLEbHAND-CURLICUE MIDDLE RING LITTLE ON",
      "bHAND-CUP MIDDLE RING LITTLEbHAND-HINGE MIDDLE RING LITTLE",
      "bHAND-ANGLE MIDDLE RING LITTLE OUTfINeLITTLEbHAND-CIRCLE MIDDLE RING LITTLE BENT",
      "bHAND-CLAW MIDDLE RING LITTLE CONJOINEDgSIDEbHAND-HOOK MIDDLE RING LITTLE CONJOINED OUT",
      "gINfCONJOINEDbHAND-HINGE INDEX HINGEDbHAND-FIST INDEX THUMB SIDE",
      "bHAND-HINGE INDEX THUMB SIDEbHAND-FIST INDEX THUMB SIDE THUMB DIAGONALgCONJOINEDgBENT",
      "fINDEX BENTfBOTH BENTfINDEX HINGEeFORWARD INDEX STRAIGHTgBENTeHOOKeCURLICUE",
      "eCURVE THUMB INSIDEbHAND-CLAW INDEX THUMB CURVE THUMB INSIDE",
      "bHAND-FIST INDEX THUMB CURVE THUMB UNDEReCIRCLEbHAND-CUP INDEX THUMBeOPEN",
      "bHAND-HINGE INDEX THUMB OPENeLARGEdTHUMBeSMALLbHAND-ANGLE INDEX THUMB OUTeINdTHUMB",
      "bHAND-FIST THUMBdHEELdSIDE DIAGONALeCONJOINEDeBENTdFORWARDdBETWEEN INDEX MIDDLE",
      "eMIDDLE RINGeRING LITTLEdUNDER TWO FINGERSdOVER TWO FINGERSdUNDER THREE FINGERS",
      "eFOUR FINGERSdOVER FOUR RAISED KNUCKLESbHAND-FISTcHEELbTOUCH SINGLEcMULTIPLEcBETWEEN",
      "bGRASP SINGLEcMULTIPLEcBETWEENbSTRIKE SINGLEcMULTIPLEcBETWEENbBRUSH SINGLEcMULTIPLE",
      "cBETWEENbRUB SINGLEcMULTIPLEcBETWEENbSURFACE SYMBOLScBETWEENbSQUEEZE LARGE SINGLE",
      "cSMALL SINGLEcLARGE MULTIPLEcSMALL MULTIPLEcSEQUENTIALbFLICK LARGE SINGLEcSMALL SINGLE",
      "cLARGE MULTIPLEcSMALL MULTIPLEcSEQUENTIALbSQUEEZE FLICK ALTERNATING",
      "bMOVEMENT-HINGE UP DOWN LARGEeSMALLdSEQUENTIALcDOWN SEQUENTIAL",
      "cUP DOWN ALTERNATING LARGEfSMALLcSIDE TO SIDE SCISSORS",
      "bMOVEMENT-WALLPLANE FINGER CONTACTbMOVEMENT-FLOORPLANE FINGER CONTACT",
      "bMOVEMENT-WALLPLANE SINGLE STRAIGHT SMALLeMEDIUMeLARGEeLARGESTdWRIST FLEX",
      "cDOUBLE STRAIGHTdWRIST FLEXdALTERNATINGeWRIST FLEXcCROSScTRIPLE STRAIGHT MOVEMENT",
      "dWRIST FLEXdALTERNATINGeWRIST FLEXcBEND SMALLdMEDIUMdLARGEcCORNER SMALLdMEDIUMdLARGE",
      "dROTATIONcCHECK SMALLdMEDIUMdLARGEcBOX SMALLdMEDIUMdLARGEcZIGZAG SMALLdMEDIUMdLARGE",
      "cPEAKS SMALLdMEDIUMdLARGEbTRAVEL-WALLPLANE ROTATION-WALLPLANE SINGLEdDOUBLEdALTERNATING",
      "cROTATION-FLOORPLANE SINGLEdDOUBLEdALTERNATINGcSHAKINGcARM SPIRAL SINGLEeDOUBLEeTRIPLE",
      "bMOVEMENT-DIAGONAL AWAY SMALLdMEDIUMdLARGEdLARGESTcTOWARDS SMALLdMEDIUMdLARGEdLARGEST",
      "cBETWEEN AWAY SMALLeMEDIUMeLARGEeLARGESTdTOWARDS SMALLeMEDIUMeLARGEeLARGEST",
      "bMOVEMENT-FLOORPLANE SINGLE STRAIGHT SMALLeMEDIUMeLARGEeLARGESTdWRIST FLEX",
      "cDOUBLE STRAIGHTdWRIST FLEXdALTERNATINGeWRIST FLEXcCROSScTRIPLE STRAIGHT MOVEMENT",
      "dWRIST FLEXdALTERNATING MOVEMENTeWRIST FLEXcBENDcCORNER SMALLdMEDIUMdLARGEcCHECK",
      "cBOX SMALLdMEDIUMdLARGEcZIGZAG SMALLdMEDIUMdLARGEcPEAKS SMALLdMEDIUMdLARGE",
      "bTRAVEL-FLOORPLANE ROTATION-FLOORPLANE SINGLEdDOUBLEdALTERNATING",
      "cROTATION-WALLPLANE SINGLEdDOUBLEdALTERNATINGcSHAKING",
      "bMOVEMENT-WALLPLANE CURVE QUARTER SMALLeMEDIUMeLARGEeLARGESTdHALF-CIRCLE SMALLeMEDIUM",
      "eLARGEeLARGESTdTHREE-QUARTER CIRCLE SMALLfMEDIUMcHUMP SMALLdMEDIUMdLARGEcLOOP SMALL",
      "dMEDIUMdLARGEdSMALL DOUBLEcWAVE CURVE DOUBLE SMALLfMEDIUMfLARGEeTRIPLE SMALLfMEDIUM",
      "fLARGEcCURVE THEN STRAIGHTcCURVED CROSS SMALLeMEDIUMbROTATION-WALLPLANE SINGLEcDOUBLE",
      "cALTERNATEbMOVEMENT-WALLPLANE SHAKINGcCURVE HITTING FRONT WALLcHUMP HITTING FRONT WALL",
      "cLOOP HITTING FRONT WALLcWAVE HITTING FRONT WALL",
      "bROTATION-WALLPLANE SINGLE HITTING FRONT WALLcDOUBLE HITTING FRONT WALL",
      "cALTERNATING HITTING FRONT WALLbMOVEMENT-WALLPLANE CURVE HITTING CHEST",
      "cHUMP HITTING CHESTcLOOP HITTING CHESTcWAVE HITTING CHEST",
      "bROTATION-WALLPLANE SINGLE HITTING CHESTcDOUBLE HITTING CHESTcALTERNATING HITTING CHEST",
      "bMOVEMENT-WALLPLANE WAVE DIAGONAL PATH SMALLfMEDIUMfLARGE",
      "bMOVEMENT-FLOORPLANE CURVE HITTING CEILING SMALLfLARGE",
      "cHUMP HITTING CEILING SMALL DOUBLEfLARGE DOUBLEfSMALL TRIPLEfLARGE TRIPLE",
      "cLOOP HITTING CEILING SMALL SINGLEfLARGE SINGLEfSMALL DOUBLEfLARGE DOUBLE",
      "cWAVE HITTING CEILING SMALLfLARGEbROTATION-FLOORPLANE SINGLE HITTING CEILING",
      "cDOUBLE HITTING CEILINGcALTERNATING HITTING CEILING",
      "bMOVEMENT-FLOORPLANE CURVE HITTING FLOOR SMALLfLARGEcHUMP HITTING FLOOR SMALL DOUBLE",
      "fLARGE DOUBLEfTRIPLE SMALL TRIPLEgLARGE TRIPLEcLOOP HITTING FLOOR SMALL SINGLE",
      "fLARGE SINGLEfSMALL DOUBLEfLARGE DOUBLEcWAVE HITTING FLOOR SMALLfLARGE",
      "bROTATION-FLOORPLANE SINGLE HITTING FLOORcDOUBLE HITTING FLOOR",
      "cALTERNATING HITTING FLOORbMOVEMENT-FLOORPLANE CURVE SMALLdMEDIUMdLARGEdLARGEST",
      "dCOMBINEDcHUMP SMALLcLOOP SMALLcWAVE SNAKEdSMALLdLARGEbROTATION-FLOORPLANE SINGLE",
      "cDOUBLEcALTERNATINGbMOVEMENT-FLOORPLANE SHAKING PARALLEL",
      "bMOVEMENT-WALLPLANE ARM CIRCLE SMALL SINGLEeMEDIUM SINGLEeSMALL DOUBLEeMEDIUM DOUBLE",
      "bMOVEMENT-FLOORPLANE ARM CIRCLE HITTING WALL SMALL SINGLEgMEDIUM SINGLEgLARGE SINGLE",
      "gSMALL DOUBLEgMEDIUM DOUBLEgLARGE DOUBLEbMOVEMENT-WALLPLANE WRIST CIRCLE FRONT SINGLE",
      "fDOUBLEbMOVEMENT-FLOORPLANE WRIST CIRCLE HITTING WALL SINGLEgDOUBLE",
      "bMOVEMENT-WALLPLANE FINGER CIRCLES SINGLEeDOUBLE",
      "bMOVEMENT-FLOORPLANE FINGER CIRCLES HITTING WALL SINGLEgDOUBLEbDYNAMIC ARROWHEAD SMALL",
      "dLARGEcFASTcSLOWcTENSEcRELAXEDcSIMULTANEOUSdALTERNATINGcEVERY OTHER TIMEcGRADUALbHEAD",
      "cRIMcMOVEMENT-WALLPLANE STRAIGHTdTILTcMOVEMENT-FLOORPLANE STRAIGHT",
      "cMOVEMENT-WALLPLANE CURVEcMOVEMENT-FLOORPLANE CURVEcMOVEMENT CIRCLE",
      "bFACE DIRECTION POSITION NOSE FORWARD TILTINGfUP OR DOWNiTILTINGbEYEBROWS STRAIGHT UP",
      "dNEUTRALdDOWNbDREAMY EYEBROWS NEUTRAL DOWNdDOWN NEUTRALdUP NEUTRALdNEUTRAL UP",
      "bFOREHEAD NEUTRALcCONTACTcWRINKLEDbEYES OPENcSQUEEZEDcCLOSEDbEYE BLINK SINGLEdMULTIPLE",
      "bEYES HALF OPENcWIDE OPENcHALF CLOSEDcWIDENING MOVEMENTbEYE WINKbEYELASHES UPcDOWN",
      "cFLUTTERINGbEYEGAZE-WALLPLANE STRAIGHTdDOUBLEdALTERNATINGbEYEGAZE-FLOORPLANE STRAIGHT",
      "dDOUBLEdALTERNATINGbEYEGAZE-WALLPLANE CURVEDbEYEGAZE-FLOORPLANE CURVED",
      "bEYEGAZE-WALLPLANE CIRCLINGbCHEEKS PUFFEDcNEUTRALcSUCKEDbTENSE CHEEKS HIGHdMIDDLEdLOW",
      "bEARSbNOSE NEUTRALcCONTACTcWRINKLEScWIGGLESbAIR BLOWING OUTcSUCKING IN",
      "cBLOW SMALL ROTATIONScSUCK SMALL ROTATIONSbBREATH INHALEcEXHALEbMOUTH CLOSED NEUTRAL",
      "dFORWARDdCONTACTcSMILEdWRINKLEDdOPENcFROWNdWRINKLEDdOPENcOPEN CIRCLEdFORWARDdWRINKLED",
      "dOVALeWRINKLEDeYAWNdRECTANGLEeWRINKLEDeYAWNcKISSdFORWARDdWRINKLEDcTENSEdFORWARDdSUCKED",
      "bLIPS PRESSED TOGETHERbLIP LOWER OVER UPPERcUPPER OVER LOWERbMOUTH CORNERS",
      "cWRINKLES SINGLEdDOUBLEbTONGUE STICKING OUT FARcLICKING LIPScTIP BETWEEN LIPS",
      "dTOUCHING INSIDE MOUTHcINSIDE MOUTH RELAXEDcMOVES AGAINST CHEEKcCENTRE STICKING OUT",
      "dINSIDE MOUTHbTEETHcMOVEMENTcON TONGUEeMOVEMENTdLIPSeMOVEMENTcBITE LIPS",
      "bMOVEMENT-WALLPLANE JAWbMOVEMENT-FLOORPLANE JAWbNECKbHAIRbEXCITEMENTbSHOULDER HIP SPINE",
      "dPOSITIONSbWALLPLANE SHOULDER HIP MOVEbFLOORPLANE SHOULDER HIP MOVE",
      "bSHOULDER TILTING FROM WAISTbTORSO-WALLPLANE STRAIGHT STRETCHcCURVED BEND",
      "bTORSO-FLOORPLANE TWISTINGbUPPER BODY TILTING FROM HIP JOINTSbLIMB COMBINATIONcLENGTH-1",
      "cLENGTH-2cLENGTH-3cLENGTH-4cLENGTH-5cLENGTH-6cLENGTH-7bFINGERbLOCATION-WALLPLANE SPACE",
      "bLOCATION-FLOORPLANE SPACEbLOCATION HEIGHTcWIDTHcDEPTHcHEAD NECKcTORSOcLIMBS DIGITS",
      "bCOMMAbFULL STOPbSEMICOLONbCOLONbPARENTHESIS"]⟩]

def namesFrom1DA9B : List NameRun :=
  [⟨0x1da9b, ["aSIGNWRITING FILL MODIFIER-2cMODIFIER-3cMODIFIER-4cMODIFIER-5cMODIFIER-6"]⟩,
    ⟨0x1daa1, ["aSIGNWRITING ROTATION MODIFIER-2cMODIFIER-3cMODIFIER-4cMODIFIER-5cMODIFIER-6",
      "cMODIFIER-7cMODIFIER-8cMODIFIER-9cMODIFIER-10cMODIFIER-11cMODIFIER-12cMODIFIER-13",
      "cMODIFIER-14cMODIFIER-15cMODIFIER-16"]⟩,
    ⟨0x1df00, ["aLATIN SMALL LETTER FENG DIGRAPH WITH TRILLdREVERSED SCRIPT G",
      "bLETTER SMALL CAPITAL TURNED GbSMALL LETTER REVERSED KbLETTER SMALL CAPITAL L WITH BELT",
      "bSMALL LETTER LEZH WITH RETROFLEX HOOKdTURNED Y WITH BELTdREVERSED ENG",
      "dTURNED R WITH LONG LEG AND RETROFLEX HOOKdT WITH HOOK AND RETROFLEX HOOK",
      "bLETTER RETROFLEX CLICK WITH RETROFLEX HOOKbSMALL LETTER ESH WITH DOUBLE BARhAND CURL",
      "dTURNED T WITH CURLbLETTER INVERTED GLOTTAL STOP WITH CURLcSTRETCHED C WITH CURL",
      "cSMALL CAPITAL TURNED KbSMALL LETTER L WITH FISHHOOKdDEZH DIGRAPH WITH PALATAL HOOK",
      "dL WITH BELT AND PALATAL HOOKdENG WITH PALATAL HOOKdTURNED R WITH PALATAL HOOK",
      "dR WITH FISHHOOK AND PALATAL HOOKdTESH DIGRAPH WITH PALATAL HOOKdEZH WITH PALATAL HOOK",
      "dDEZH DIGRAPH WITH RETROFLEX HOOKdI WITH STROKE AND RETROFLEX HOOK",
      "dO WITH RETROFLEX HOOKdTESH DIGRAPH WITH RETROFLEX HOOKdC WITH RETROFLEX HOOK",
      "dS WITH CURL"]⟩,
    ⟨0x1e000, ["aCOMBINING GLAGOLITIC LETTER AZUdBUKYdVEDEdGLAGOLIdDOBROdYESTUdZHIVETE"]⟩,
    ⟨0x1e008, ["aCOMBINING GLAGOLITIC LETTER ZEMLJAdIZHEdINITIAL IZHEdIdDJERVIdKAKOdLJUDIJE",
      "dMYSLITEdNASHIdONUdPOKOJIdRITSIdSLOVOdTVRIDOdUKUdFRITUdHERU"]⟩,
    ⟨0x1e01b, ["aCOMBINING GLAGOLITIC LETTER SHTAdTSIdCHRIVIdSHAdYERUdYERIdYATI"]⟩,
    ⟨0x1e023, ["aCOMBINING GLAGOLITIC LETTER YUdSMALL YUS"]⟩,
    ⟨0x1e026, ["aCOMBINING GLAGOLITIC LETTER YOdIOTATED SMALL YUSdBIG YUSdIOTATED BIG YUSdFITA"]⟩,
    ⟨0x1e100, ["aNYIAKENG PUACHUE HMONG LETTER MAeTSAeNTAeTAeHAeNAeXAeNKAeCAeLAeSAeZAeNCAeNTSA",
      "eKAeDAeNYAeNRAeVAeNTXAeTXAeFAeRAeQAeYAeNQAePAeXYAeNPAeDLAeNPLAeHAHeMLAePLAeGAeRRAeAeAA",
      "eIeUeOeOOeEeEEeW"]⟩,
    ⟨0x1e130, ["aNYIAKENG PUACHUE HMONG TONE-BdTONE-MdTONE-JdTONE-VdTONE-SdTONE-GdTONE-D",
      "dSIGN FOR PERSONfTHINGfLOCATIONfANIMALfINVERTEBRATEeXW XWdSYLLABLE LENGTHENER"]⟩,
    ⟨0x1e140, ["aNYIAKENG PUACHUE HMONG DIGIT ZEROeONEeTWOeTHREEeFOUReFIVEeSIXeSEVENeEIGHTeNINE"]⟩,
    ⟨0x1e14e, ["aNYIAKENG PUACHUE HMONG LOGOGRAM NYAJdCIRCLED CA"]⟩,
    ⟨0x1e290, ["aTOTO LETTER PAcBAcTAcDAcKAcGAcMAcNAcNGAcSAcCHAcYAcWAcJAcHAcRAcLAcIcBREATHY IcIU",
      "cBREATHY IUcUcEcBREATHY EcEOcBREATHY EOcOcAEcBREATHY AEcAbSIGN RISING TONE"]⟩,
    ⟨0x1e2c0, ["aWANCHO LETTER AAcAcBAcCAcDAcGAcYAcPHAcLAcNAcPAcTAcTHAcFAcSAcSHAcJAcZAcWAcVAcKA",
      "cOcAUcRAcMAcKHAcHAcEcIcNGAcUcLLHAcTSAcTRAcONGcAANGcANGcINGcONcENcAANcNYAcUENcYIH",
      "bTONE TUPcTUPNIcKOIcKOINIbDIGIT ZEROcONEcTWOcTHREEcFOURcFIVEcSIXcSEVENcEIGHTcNINE"]⟩,
    ⟨0x1e2ff, ["aWANCHO NGUN SIGN"]⟩,
    ⟨0x1e7e0, ["aETHIOPIC SYLLABLE HHYAcHHYUcHHYIcHHYAAcHHYEEcHHYEcHHYO"]⟩,
    ⟨0x1e7e8, ["aETHIOPIC SYLLABLE GURAGE HHWAcHHWIcHHWEEcHHWE"]⟩,
    ⟨0x1e7ed, ["aETHIOPIC SYLLABLE GURAGE MWIdMWEE"]⟩,
    ⟨0x1e7f0, ["aETHIOPIC SYLLABLE GURAGE QWIdQWEEdQWEdBWIdBWEEdKWIdKWEEdKWEdGWIdGWEEdGWEdFWI",
      "dFWEEdPWIdPWEE"]⟩,
    ⟨0x1e800, ["aMENDE KIKAKUI SYLLABLE M001 KIdM002 KAdM003 KUdM065 KEEdM095 KEdM076 KOO",
      "dM048 KOdM179 KUAdM004 WIdM005 WAdM006 WUdM126 WEEdM118 WEdM114 WOOdM045 WOdM194 WUI",
      "dM143 WEIdM061 WVIdM049 WVAdM139 WVEdM007 MINdM008 MANdM009 MUNdM059 MENdM094 MON",
      "dM154 MUANdM189 MUENdM010 BIdM011 BAdM012 BUdM150 BEEdM097 BEdM103 BOOdM138 BOdM013 I",
      "dM014 AdM015 UdM163 EEdM100 EdM165 OOdM147 OdM137 EIdM131 INdM135 INdM195 ANdM178 EN",
      "dM019 SIdM020 SAdM021 SUdM162 SEEdM116 SEdM136 SOOdM079 SOdM196 SIAdM025 LIdM026 LA",
      "dM027 LUdM084 LEEdM073 LEdM054 LOOdM153 LOdM110 LONG LEdM016 DIdM017 DAdM018 DU",
      "dM089 DEEdM180 DOOdM181 DOdM022 TIdM023 TAdM024 TUdM091 TEEdM055 TEdM104 TOOdM069 TO",
      "dM028 JIdM029 JAdM030 JUdM157 JEEdM113 JEdM160 JOOdM063 JOdM175 LONG JOdM031 YIdM032 YA",
      "dM033 YUdM109 YEEdM080 YEdM141 YOOdM121 YOdM034 FIdM035 FAdM036 FUdM078 FEEdM075 FE",
      "dM133 FOOdM088 FOdM197 FUAdM101 FANdM037 NINdM038 NANdM039 NUNdM117 NENdM169 NON",
      "dM176 HIdM041 HAdM186 HUdM040 HEEdM096 HEdM042 HOOdM140 HOdM083 HEEIdM128 HOOUdM053 HIN",
      "dM130 HANdM087 HUNdM052 HENdM193 HONdM046 HUANdM090 NGGIdM043 NGGAdM082 NGGUdM115 NGGEE",
      "dM146 NGGEdM156 NGGOOdM120 NGGOdM159 NGGAAdM127 NGGUAdM086 LONG NGGEdM106 LONG NGGOO",
      "dM183 LONG NGGOdM155 GIdM111 GAdM168 GUdM190 GEEdM166 GUEIdM167 GUANdM184 NGEN",
      "dM057 NGONdM177 NGUANdM068 PIdM099 PAdM050 PUdM081 PEEdM051 PEdM102 POOdM066 PO",
      "dM145 MBIdM062 MBAdM122 MBUdM047 MBEEdM188 MBEEdM072 MBEdM172 MBOOdM174 MBOdM187 MBUU",
      "dM161 LONG MBEdM105 LONG MBOOdM142 LONG MBOdM132 KPIdM092 KPAdM074 KPUdM044 KPEE",
      "dM108 KPEdM112 KPOOdM158 KPOdM124 GBIdM056 GBAdM148 GBUdM093 GBEEdM107 GBEdM071 GBOO",
      "dM070 GBOdM171 RAdM123 NDIdM129 NDAdM125 NDUdM191 NDEEdM119 NDEdM067 NDOOdM064 NDO",
      "dM152 NJAdM192 NJUdM149 NJEEdM134 NJOOdM182 VIdM185 VAdM151 VUdM173 VEEdM085 VE",
      "dM144 VOOdM077 VOdM164 NYINdM058 NYANdM170 NYUNdM098 NYENdM060 NYON"]⟩,
    ⟨0x1e8c7, ["aMENDE KIKAKUI DIGIT ONEdTWOdTHREEdFOURdFIVEdSIXdSEVENdEIGHTdNINE",
      "cCOMBINING NUMBER TEENSeTENSeHUNDREDSeTHOUSANDSeTEN THOUSANDSeHUNDRED THOUSANDS",
      "eMILLIONS"]⟩,
    ⟨0x1e900, ["aADLAM CAPITAL LETTER ALIFdDAALIdLAAMdMIIMdBAdSINNYIIYHEdPEdBHEdRAdEdFAdIdOdDHA",
      "dYHEdWAWdNUNdKAFdYAdUdJIIMdCHIdHAdQAAFdGAdNYAdTUdNHAdVAdKHAdGBEdZALdKPOdSHA",
      "bSMALL LETTER ALIFdDAALIdLAAMdMIIMdBAdSINNYIIYHEdPEdBHEdRAdEdFAdIdOdDHAdYHEdWAWdNUNdKAF",
      "dYAdUdJIIMdCHIdHAdQAAFdGAdNYAdTUdNHAdVAdKHAdGBEdZALdKPOdSHAbALIF LENGTHENER",
      "bVOWEL LENGTHENERbGEMINATION MARKbHAMZAbCONSONANT MODIFIERbGEMINATE CONSONANT MODIFIER",
      "bNUKTAbNASALIZATION MARK"]⟩,
    ⟨0x1e950, ["aADLAM DIGIT ZEROcONEcTWOcTHREEcFOURcFIVEcSIXcSEVENcEIGHTcNINE"]⟩,
    ⟨0x1e95e, ["aADLAM INITIAL EXCLAMATION MARKcQUESTION MARK"]⟩,
    ⟨0x1ec71, ["aINDIC SIYAQ NUMBER ONEdTWOdTHREEdFOURdFIVEdSIXdSEVENdEIGHTdNINEdTENdTWENTY",
      "dTHIRTYdFORTYdFIFTYdSIXTYdSEVENTYdEIGHTYdNINETYdONE HUNDREDdTWO HUNDREDdTHREE HUNDRED",
      "dFOUR HUNDREDdFIVE HUNDREDdSIX HUNDREDdSEVEN HUNDREDdEIGHT HUNDREDdNINE HUNDRED",
      "dONE THOUSANDdTWO THOUSANDdTHREE THOUSANDdFOUR THOUSANDdFIVE THOUSANDdSIX THOUSAND",
      "dSEVEN THOUSANDdEIGHT THOUSANDdNINE THOUSANDdTEN THOUSANDdTWENTY THOUSAND",
      "dTHIRTY THOUSANDdFORTY THOUSANDdFIFTY THOUSANDdSIXTY THOUSANDdSEVENTY THOUSAND",
      "dEIGHTY THOUSANDdNINETY THOUSANDdLAKHdLAKHANcLAKH MARKcNUMBER KARORdKARORAN",
      "dPREFIXED ONEeTWOeTHREEeFOUReFIVEeSIXeSEVENeEIGHTeNINEcPLACEHOLDERcFRACTION ONE QUARTER",
      "eHALFdTHREE QUARTERScRUPEE MARKcNUMBER ALTERNATE ONEeTWOeTEN THOUSAND",
      "cALTERNATE LAKH MARK"]⟩,
    ⟨0x1ed01, ["aOTTOMAN SIYAQ NUMBER ONEdTWOdTHREEdFOURdFIVEdSIXdSEVENdEIGHTdNINEdTENdTWENTY",
      "dTHIRTYdFORTYdFIFTYdSIXTYdSEVENTYdEIGHTYdNINETYdONE HUNDREDdTWO HUNDREDdTHREE HUNDRED",
      "dFOUR HUNDREDdFIVE HUNDREDdSIX HUNDREDdSEVEN HUNDREDdEIGHT HUNDREDdNINE HUNDRED",
      "dONE THOUSANDdTWO THOUSANDdTHREE THOUSANDdFOUR THOUSANDdFIVE THOUSANDdSIX THOUSAND",
      "dSEVEN THOUSANDdEIGHT THOUSANDdNINE THOUSANDdTEN THOUSANDdTWENTY THOUSAND",
      "dTHIRTY THOUSANDdFORTY THOUSANDdFIFTY THOUSANDdSIXTY THOUSANDdSEVENTY THOUSAND",
      "dEIGHTY THOUSANDdNINETY THOUSANDcMARRATANcALTERNATE NUMBER TWOeTHREEeFOUReFIVEeSIX",
      "eSEVENeEIGHTeNINEeTENeFOUR HUNDREDeSIX HUNDREDeTWO THOUSANDeTEN THOUSAND",
      "cFRACTION ONE HALFeSIXTH"]⟩,
    ⟨0x1ee00, ["aARABIC MATHEMATICAL ALEFcBEHcJEEMcDAL"]⟩,
    ⟨0x1ee05, ["aARABIC MATHEMATICAL WAWcZAINcHAHcTAHcYEHcKAFcLAMcMEEMcNOONcSEENcAINcFEHcSADcQAF",
      "cREHcSHEENcTEHcTHEHcKHAHcTHALcDADcZAHcGHAINcDOTLESS BEHdNOONdFEHdQAF"]⟩,
    ⟨0x1ee21, ["aARABIC MATHEMATICAL INITIAL BEHdJEEM"]⟩,
    ⟨0x1ee24, ["aARABIC MATHEMATICAL INITIAL HEH"]⟩,
    ⟨0x1ee27, ["aARABIC MATHEMATICAL INITIAL HAH"]⟩,
    ⟨0x1ee29, ["aARABIC MATHEMATICAL INITIAL YEHdKAFdLAMdMEEMdNOONdSEENdAINdFEHdSADdQAF"]⟩,
    ⟨0x1ee34, ["aARABIC MATHEMATICAL INITIAL SHEENdTEHdTHEHdKHAH"]⟩,
    ⟨0x1ee39, ["aARABIC MATHEMATICAL INITIAL DAD"]⟩,
    ⟨0x1ee3b, ["aARABIC MATHEMATICAL INITIAL GHAIN"]⟩,
    ⟨0x1ee42, ["aARABIC MATHEMATICAL TAILED JEEM"]⟩,
    ⟨0x1ee47, ["aARABIC MATHEMATICAL TAILED HAH"]⟩,
    ⟨0x1ee49, ["aARABIC MATHEMATICAL TAILED YEH"]⟩,
    ⟨0x1ee4b, ["aARABIC MATHEMATICAL TAILED LAM"]⟩,
    ⟨0x1ee4d, ["aARABIC MATHEMATICAL TAILED NOONdSEENdAIN"]⟩]

def namesFrom1EE51 : List NameRun :=
  [⟨0x1ee51, ["aARABIC MATHEMATICAL TAILED SADdQAF"]⟩,
    ⟨0x1ee54, ["aARABIC MATHEMATICAL TAILED SHEEN"]⟩,
    ⟨0x1ee57, ["aARABIC MATHEMATICAL TAILED KHAH"]⟩,
    ⟨0x1ee59, ["aARABIC MATHEMATICAL TAILED DAD"]⟩,
    ⟨0x1ee5b, ["aARABIC MATHEMATICAL TAILED GHAIN"]⟩,
    ⟨0x1ee5d, ["aARABIC MATHEMATICAL TAILED DOTLESS NOON"]⟩,
    ⟨0x1ee5f, ["aARABIC MATHEMATICAL TAILED DOTLESS QAF"]⟩,
    ⟨0x1ee61, ["aARABIC MATHEMATICAL STRETCHED BEHdJEEM"]⟩,
    ⟨0x1ee64, ["aARABIC MATHEMATICAL STRETCHED HEH"]⟩,
    ⟨0x1ee67, ["aARABIC MATHEMATICAL STRETCHED HAHdTAHdYEHdKAF"]⟩,
    ⟨0x1ee6c, ["aARABIC MATHEMATICAL STRETCHED MEEMdNOONdSEENdAINdFEHdSADdQAF"]⟩,
    ⟨0x1ee74, ["aARABIC MATHEMATICAL STRETCHED SHEENdTEHdTHEHdKHAH"]⟩,
    ⟨0x1ee79, ["aARABIC MATHEMATICAL STRETCHED DADdZAHdGHAINdDOTLESS BEH"]⟩,
    ⟨0x1ee7e, ["aARABIC MATHEMATICAL STRETCHED DOTLESS FEH"]⟩,
    ⟨0x1ee80, ["aARABIC MATHEMATICAL LOOPED ALEFdBEHdJEEMdDALdHEHdWAWdZAINdHAHdTAHdYEH"]⟩,
    ⟨0x1ee8b, ["aARABIC MATHEMATICAL LOOPED LAMdMEEMdNOONdSEENdAINdFEHdSADdQAFdREHdSHEENdTEH",
      "dTHEHdKHAHdTHALdDADdZAHdGHAIN"]⟩,
    ⟨0x1eea1, ["aARABIC MATHEMATICAL DOUBLE-STRUCK BEHdJEEMdDAL"]⟩,
    ⟨0x1eea5, ["aARABIC MATHEMATICAL DOUBLE-STRUCK WAWdZAINdHAHdTAHdYEH"]⟩,
    ⟨0x1eeab, ["aARABIC MATHEMATICAL DOUBLE-STRUCK LAMdMEEMdNOONdSEENdAINdFEHdSADdQAFdREHdSHEEN",
      "dTEHdTHEHdKHAHdTHALdDADdZAHdGHAIN"]⟩,
    ⟨0x1eef0, ["aARABIC MATHEMATICAL OPERATOR MEEM WITH HAH WITH TATWEELdHAH WITH DAL"]⟩,
    ⟨0x1f000, ["aMAHJONG TILE EAST WINDcSOUTH WINDcWEST WINDcNORTH WINDcRED DRAGONcGREEN DRAGON",
      "cWHITE DRAGONcONE OF CHARACTERScTWO OF CHARACTERScTHREE OF CHARACTERS",
      "cFOUR OF CHARACTERScFIVE OF CHARACTERScSIX OF CHARACTERScSEVEN OF CHARACTERS",
      "cEIGHT OF CHARACTERScNINE OF CHARACTERScONE OF BAMBOOScTWO OF BAMBOOScTHREE OF BAMBOOS",
      "cFOUR OF BAMBOOScFIVE OF BAMBOOScSIX OF BAMBOOScSEVEN OF BAMBOOScEIGHT OF BAMBOOS",
      "cNINE OF BAMBOOScONE OF CIRCLEScTWO OF CIRCLEScTHREE OF CIRCLEScFOUR OF CIRCLES",
      "cFIVE OF CIRCLEScSIX OF CIRCLEScSEVEN OF CIRCLEScEIGHT OF CIRCLEScNINE OF CIRCLEScPLUM",
      "cORCHIDcBAMBOOcCHRYSANTHEMUMcSPRINGcSUMMERcAUTUMNcWINTERcJOKERcBACK"]⟩,
    ⟨0x1f030, ["aDOMINO TILE HORIZONTAL BACKcHORIZONTAL-00-00cHORIZONTAL-00-01cHORIZONTAL-00-02",
      "cHORIZONTAL-00-03cHORIZONTAL-00-04cHORIZONTAL-00-05cHORIZONTAL-00-06cHORIZONTAL-01-00",
      "cHORIZONTAL-01-01cHORIZONTAL-01-02cHORIZONTAL-01-03cHORIZONTAL-01-04cHORIZONTAL-01-05",
      "cHORIZONTAL-01-06cHORIZONTAL-02-00cHORIZONTAL-02-01cHORIZONTAL-02-02cHORIZONTAL-02-03",
      "cHORIZONTAL-02-04cHORIZONTAL-02-05cHORIZONTAL-02-06cHORIZONTAL-03-00cHORIZONTAL-03-01",
      "cHORIZONTAL-03-02cHORIZONTAL-03-03cHORIZONTAL-03-04cHORIZONTAL-03-05cHORIZONTAL-03-06",
      "cHORIZONTAL-04-00cHORIZONTAL-04-01cHORIZONTAL-04-02cHORIZONTAL-04-03cHORIZONTAL-04-04",
      "cHORIZONTAL-04-05cHORIZONTAL-04-06cHORIZONTAL-05-00cHORIZONTAL-05-01cHORIZONTAL-05-02",
      "cHORIZONTAL-05-03cHORIZONTAL-05-04cHORIZONTAL-05-05cHORIZONTAL-05-06cHORIZONTAL-06-00",
      "cHORIZONTAL-06-01cHORIZONTAL-06-02cHORIZONTAL-06-03cHORIZONTAL-06-04cHORIZONTAL-06-05",
      "cHORIZONTAL-06-06cVERTICAL BACKcVERTICAL-00-00cVERTICAL-00-01cVERTICAL-00-02",
      "cVERTICAL-00-03cVERTICAL-00-04cVERTICAL-00-05cVERTICAL-00-06cVERTICAL-01-00",
      "cVERTICAL-01-01cVERTICAL-01-02cVERTICAL-01-03cVERTICAL-01-04cVERTICAL-01-05",
      "cVERTICAL-01-06cVERTICAL-02-00cVERTICAL-02-01cVERTICAL-02-02cVERTICAL-02-03",
      "cVERTICAL-02-04cVERTICAL-02-05cVERTICAL-02-06cVERTICAL-03-00cVERTICAL-03-01",
      "cVERTICAL-03-02cVERTICAL-03-03cVERTICAL-03-04cVERTICAL-03-05cVERTICAL-03-06",
      "cVERTICAL-04-00cVERTICAL-04-01cVERTICAL-04-02cVERTICAL-04-03cVERTICAL-04-04",
      "cVERTICAL-04-05cVERTICAL-04-06cVERTICAL-05-00cVERTICAL-05-01cVERTICAL-05-02",
      "cVERTICAL-05-03cVERTICAL-05-04cVERTICAL-05-05cVERTICAL-05-06cVERTICAL-06-00",
      "cVERTICAL-06-01cVERTICAL-06-02cVERTICAL-06-03cVERTICAL-06-04cVERTICAL-06-05",
      "cVERTICAL-06-06"]⟩,
    ⟨0x1f0a0, ["aPLAYING CARD BACKcACE OF SPADEScTWO OF SPADEScTHREE OF SPADEScFOUR OF SPADES",
      "cFIVE OF SPADEScSIX OF SPADEScSEVEN OF SPADEScEIGHT OF SPADEScNINE OF SPADES",
      "cTEN OF SPADEScJACK OF SPADEScKNIGHT OF SPADEScQUEEN OF SPADEScKING OF SPADES"]⟩,
    ⟨0x1f0b1, ["aPLAYING CARD ACE OF HEARTScTWO OF HEARTScTHREE OF HEARTScFOUR OF HEARTS",
      "cFIVE OF HEARTScSIX OF HEARTScSEVEN OF HEARTScEIGHT OF HEARTScNINE OF HEARTS",
      "cTEN OF HEARTScJACK OF HEARTScKNIGHT OF HEARTScQUEEN OF HEARTScKING OF HEARTScRED JOKER"]⟩,
    ⟨0x1f0c1, ["aPLAYING CARD ACE OF DIAMONDScTWO OF DIAMONDScTHREE OF DIAMONDScFOUR OF DIAMONDS",
      "cFIVE OF DIAMONDScSIX OF DIAMONDScSEVEN OF DIAMONDScEIGHT OF DIAMONDScNINE OF DIAMONDS",
      "cTEN OF DIAMONDScJACK OF DIAMONDScKNIGHT OF DIAMONDScQUEEN OF DIAMONDScKING OF DIAMONDS",
      "cBLACK JOKER"]⟩,
    ⟨0x1f0d1, ["aPLAYING CARD ACE OF CLUBScTWO OF CLUBScTHREE OF CLUBScFOUR OF CLUBS",
      "cFIVE OF CLUBScSIX OF CLUBScSEVEN OF CLUBScEIGHT OF CLUBScNINE OF CLUBScTEN OF CLUBS",
      "cJACK OF CLUBScKNIGHT OF CLUBScQUEEN OF CLUBScKING OF CLUBScWHITE JOKERcFOOLcTRUMP-1",
      "cTRUMP-2cTRUMP-3cTRUMP-4cTRUMP-5cTRUMP-6cTRUMP-7cTRUMP-8cTRUMP-9cTRUMP-10cTRUMP-11",
      "cTRUMP-12cTRUMP-13cTRUMP-14cTRUMP-15cTRUMP-16cTRUMP-17cTRUMP-18cTRUMP-19cTRUMP-20",
      "cTRUMP-21"]⟩,
    ⟨0x1f100, ["aDIGIT ZERO FULL STOPcCOMMAbONE COMMAbTWO COMMAbTHREE COMMAbFOUR COMMA",
      "bFIVE COMMAbSIX COMMAbSEVEN COMMAbEIGHT COMMAbNINE COMMA",
      "aDINGBAT CIRCLED SANS-SERIF DIGIT ZERObNEGATIVE CIRCLED SANS-SERIF DIGIT ZERO",
      "aCIRCLED ZERO WITH SLASHbANTICLOCKWISE ARROWbDOLLAR SIGN WITH OVERLAID BACKSLASH",
      "aPARENTHESIZED LATIN CAPITAL LETTER AeBeCeDeEeFeGeHeIeJeKeLeMeNeOePeQeReSeTeUeVeWeXeYeZ",
      "aTORTOISE SHELL BRACKETED LATIN CAPITAL LETTER SaCIRCLED ITALIC LATIN CAPITAL LETTER C",
      "fRbCDbWZaCOPYLEFT SYMBOLaSQUARED LATIN CAPITAL LETTER AeBeCeDeEeFeGeHeIeJeKeLeMeNeOePeQ",
      "eReSeTeUeVeWeXeYeZbHVbMVbSDbSSbPPVbWCaNEGATIVE CIRCLED LATIN CAPITAL LETTER AfBfCfDfEfF",
      "fGfHfIfJfKfLfMfNfOfPfQfRfSfTfUfVfWfXfYfZaRAISED MC SIGNbMD SIGNbMR SIGNaCIRCLED CC",
      "bC WITH OVERLAID BACKSLASHbHUMAN FIGUREaNEGATIVE SQUARED LATIN CAPITAL LETTER AfBfCfDfE",
      "fFfGfHfIfJfKfLfMfNfOfPfQfRfSfTfUfVfWfXfYfZ",
      "aCROSSED NEGATIVE SQUARED LATIN CAPITAL LETTER PaNEGATIVE SQUARED ICcPAcSAcABcWC",
      "aSQUARE DJaSQUARED CLbCOOLbFREEbIDbNEWbNGbOKbSOSbUP WITH EXCLAMATION MARKbVSbTHREE D",
      "bSECOND SCREENbTWO KbFOUR KbEIGHT KbFIVE POINT ONEbSEVEN POINT ONEbTWENTY-TWO POINT TWO",
      "bSIXTY PbONE HUNDRED TWENTY PbLATIN SMALL LETTER DbHCbHDRbHI-RESbLOSSLESSbSHVbUHDbVOD",
      "aMASK WORK SYMBOL"]⟩,
    ⟨0x1f1e6, ["aREGIONAL INDICATOR SYMBOL LETTER AeBeCeDeEeFeGeHeIeJeKeLeMeNeOePeQeReSeTeUeVeW",
      "eXeYeZaSQUARE HIRAGANA HOKAaSQUARED KATAKANA KOKOcSA"]⟩,
    ⟨0x1f210, ["aSQUARED CJK UNIFIED IDEOGRAPH-624BdIDEOGRAPH-5B57dIDEOGRAPH-53CCbKATAKANA DE",
      "bCJK UNIFIED IDEOGRAPH-4E8CdIDEOGRAPH-591AdIDEOGRAPH-89E3dIDEOGRAPH-5929dIDEOGRAPH-4EA4",
      "dIDEOGRAPH-6620dIDEOGRAPH-7121dIDEOGRAPH-6599dIDEOGRAPH-524DdIDEOGRAPH-5F8C",
      "dIDEOGRAPH-518DdIDEOGRAPH-65B0dIDEOGRAPH-521DdIDEOGRAPH-7D42dIDEOGRAPH-751F",
      "dIDEOGRAPH-8CA9dIDEOGRAPH-58F0dIDEOGRAPH-5439dIDEOGRAPH-6F14dIDEOGRAPH-6295",
      "dIDEOGRAPH-6355dIDEOGRAPH-4E00dIDEOGRAPH-4E09dIDEOGRAPH-904AdIDEOGRAPH-5DE6",
      "dIDEOGRAPH-4E2DdIDEOGRAPH-53F3dIDEOGRAPH-6307dIDEOGRAPH-8D70dIDEOGRAPH-6253",
      "dIDEOGRAPH-7981dIDEOGRAPH-7A7AdIDEOGRAPH-5408dIDEOGRAPH-6E80dIDEOGRAPH-6709",
      "dIDEOGRAPH-6708dIDEOGRAPH-7533dIDEOGRAPH-5272dIDEOGRAPH-55B6dIDEOGRAPH-914D"]⟩,
    ⟨0x1f240, ["aTORTOISE SHELL BRACKETED CJK UNIFIED IDEOGRAPH-672CfIDEOGRAPH-4E09",
      "fIDEOGRAPH-4E8CfIDEOGRAPH-5B89fIDEOGRAPH-70B9fIDEOGRAPH-6253fIDEOGRAPH-76D7",
      "fIDEOGRAPH-52DDfIDEOGRAPH-6557"]⟩,
    ⟨0x1f250, ["aCIRCLED IDEOGRAPH ADVANTAGEcACCEPT"]⟩,
    ⟨0x1f260, ["aROUNDED SYMBOL FOR FUdLUdSHOUdXIdSHUANGXIdCAI"]⟩]

def namesFrom1F300 : List NameRun :=
  [⟨0x1f300, ["aCYCLONEaFOGGYaCLOSED UMBRELLAaNIGHT WITH STARSaSUNRISE OVER MOUNTAINSaSUNRISE",
      "aCITYSCAPE AT DUSKaSUNSET OVER BUILDINGSaRAINBOWaBRIDGE AT NIGHTaWATER WAVEaVOLCANO",
      "aMILKY WAYaEARTH GLOBE EUROPE-AFRICAcAMERICAScASIA-AUSTRALIAaGLOBE WITH MERIDIANS",
      "aNEW MOON SYMBOLaWAXING CRESCENT MOON SYMBOLaFIRST QUARTER MOON SYMBOL",
      "aWAXING GIBBOUS MOON SYMBOLaFULL MOON SYMBOLaWANING GIBBOUS MOON SYMBOL",
      "aLAST QUARTER MOON SYMBOLaWANING CRESCENT MOON SYMBOLaCRESCENT MOONaNEW MOON WITH FACE",
      "aFIRST QUARTER MOON WITH FACEaLAST QUARTER MOON WITH FACEaFULL MOON WITH FACE",
      "aSUN WITH FACEaGLOWING STARaSHOOTING STARaTHERMOMETERaBLACK DROPLETaWHITE SUN",
      "cWITH SMALL CLOUDcBEHIND CLOUDeWITH RAINaCLOUD WITH RAINcSNOWcLIGHTNINGcTORNADOaFOG",
      "aWIND BLOWING FACEaHOT DOGaTACOaBURRITOaCHESTNUTaSEEDLINGaEVERGREEN TREEaDECIDUOUS TREE",
      "aPALM TREEaCACTUSaHOT PEPPERaTULIPaCHERRY BLOSSOMaROSEaHIBISCUSaSUNFLOWERaBLOSSOM",
      "aEAR OF MAIZEcRICEaHERBaFOUR LEAF CLOVERaMAPLE LEAFaFALLEN LEAFaLEAF FLUTTERING IN WIND",
      "aMUSHROOMaTOMATOaAUBERGINEaGRAPESaMELONaWATERMELONaTANGERINEaLEMONaBANANAaPINEAPPLE",
      "aRED APPLEaGREEN APPLEaPEARaPEACHaCHERRIESaSTRAWBERRYaHAMBURGERaSLICE OF PIZZA",
      "aMEAT ON BONEaPOULTRY LEGaRICE CRACKERbBALLaCOOKED RICEaCURRY AND RICEaSTEAMING BOWL",
      "aSPAGHETTIaBREADaFRENCH FRIESaROASTED SWEET POTATOaDANGOaODENaSUSHIaFRIED SHRIMP",
      "aFISH CAKE WITH SWIRL DESIGNaSOFT ICE CREAMaSHAVED ICEaICE CREAMaDOUGHNUTaCOOKIE",
      "aCHOCOLATE BARaCANDYaLOLLIPOPaCUSTARDaHONEY POTaSHORTCAKEaBENTO BOXaPOT OF FOODaCOOKING",
      "aFORK AND KNIFEaTEACUP WITHOUT HANDLEaSAKE BOTTLE AND CUPaWINE GLASSaCOCKTAIL GLASS",
      "aTROPICAL DRINKaBEER MUGaCLINKING BEER MUGSaBABY BOTTLEaFORK AND KNIFE WITH PLATE",
      "aBOTTLE WITH POPPING CORKaPOPCORNaRIBBONaWRAPPED PRESENTaBIRTHDAY CAKEaJACK-O-LANTERN",
      "aCHRISTMAS TREEaFATHER CHRISTMASaFIREWORKSaFIREWORK SPARKLERaBALLOONaPARTY POPPER",
      "aCONFETTI BALLaTANABATA TREEaCROSSED FLAGSaPINE DECORATIONaJAPANESE DOLLSaCARP STREAMER",
      "aWIND CHIMEaMOON VIEWING CEREMONYaSCHOOL SATCHELaGRADUATION CAP",
      "aHEART WITH TIP ON THE LEFTaBOUQUET OF FLOWERSaMILITARY MEDALaREMINDER RIBBON",
      "aMUSICAL KEYBOARD WITH JACKSaSTUDIO MICROPHONEaLEVEL SLIDERaCONTROL KNOBS",
      "aBEAMED ASCENDING MUSICAL NOTESbDESCENDING MUSICAL NOTESaFILM FRAMESaADMISSION TICKETS",
      "aCAROUSEL HORSEaFERRIS WHEELaROLLER COASTERaFISHING POLE AND FISHaMICROPHONE",
      "aMOVIE CAMERAaCINEMAaHEADPHONEaARTIST PALETTEaTOP HATaCIRCUS TENTaTICKETaCLAPPER BOARD",
      "aPERFORMING ARTSaVIDEO GAMEaDIRECT HITaSLOT MACHINEaBILLIARDSaGAME DIEaBOWLING",
      "aFLOWER PLAYING CARDSaMUSICAL NOTEaMULTIPLE MUSICAL NOTESaSAXOPHONEaGUITAR",
      "aMUSICAL KEYBOARDaTRUMPETaVIOLINaMUSICAL SCOREaRUNNING SHIRT WITH SASH",
      "aTENNIS RACQUET AND BALLaSKI AND SKI BOOTaBASKETBALL AND HOOPaCHEQUERED FLAG",
      "aSNOWBOARDERaRUNNERaSURFERaSPORTS MEDALaTROPHYaHORSE RACINGaAMERICAN FOOTBALL",
      "aRUGBY FOOTBALLaSWIMMERaWEIGHT LIFTERaGOLFERaRACING MOTORCYCLEbCARaCRICKET BAT AND BALL",
      "aVOLLEYBALLaFIELD HOCKEY STICK AND BALLaICE HOCKEY STICK AND PUCK",
      "aTABLE TENNIS PADDLE AND BALLaSNOW CAPPED MOUNTAINaCAMPINGaBEACH WITH UMBRELLA",
      "aBUILDING CONSTRUCTIONaHOUSE BUILDINGSaCITYSCAPEaDERELICT HOUSE BUILDING",
      "aCLASSICAL BUILDINGaDESERTbISLANDaNATIONAL PARKaSTADIUMaHOUSE BUILDINGbWITH GARDEN",
      "aOFFICE BUILDINGaJAPANESE POST OFFICEaEUROPEAN POST OFFICEaHOSPITALaBANK",
      "aAUTOMATED TELLER MACHINEaHOTELaLOVE HOTELaCONVENIENCE STOREaSCHOOLaDEPARTMENT STORE",
      "aFACTORYaIZAKAYA LANTERNaJAPANESE CASTLEaEUROPEAN CASTLEaWHITE PENNANTaBLACK PENNANT",
      "aWAVING WHITE FLAGbBLACK FLAGaROSETTEaBLACK ROSETTEaLABEL",
      "aBADMINTON RACQUET AND SHUTTLECOCKaBOW AND ARROWaAMPHORA",
      "aEMOJI MODIFIER FITZPATRICK TYPE-1-2dTYPE-3dTYPE-4dTYPE-5dTYPE-6aRATaMOUSEaOX",
      "aWATER BUFFALOaCOWaTIGERaLEOPARDaRABBITaCATaDRAGONaCROCODILEaWHALEaSNAILaSNAKEaHORSE",
      "aRAMaGOATaSHEEPaMONKEYaROOSTERaCHICKENaDOGaPIGaBOARaELEPHANTaOCTOPUSaSPIRAL SHELLaBUG",
      "aANTaHONEYBEEaLADY BEETLEaFISHaTROPICAL FISHaBLOWFISHaTURTLEaHATCHING CHICKaBABY CHICK",
      "aFRONT-FACING BABY CHICKaBIRDaPENGUINaKOALAaPOODLEaDROMEDARY CAMELaBACTRIAN CAMEL",
      "aDOLPHINaMOUSE FACEaCOW FACEaTIGER FACEaRABBIT FACEaCAT FACEaDRAGON FACEaSPOUTING WHALE",
      "aHORSE FACEaMONKEY FACEaDOG FACEaPIG FACEaFROG FACEaHAMSTER FACEaWOLF FACEaBEAR FACE",
      "aPANDA FACEaPIG NOSEaPAW PRINTSaCHIPMUNKaEYESaEYEaEARaNOSEaMOUTHaTONGUE",
      "aWHITE UP POINTING BACKHAND INDEXbDOWN POINTING BACKHAND INDEX",
      "bLEFT POINTING BACKHAND INDEXbRIGHT POINTING BACKHAND INDEXaFISTED HAND SIGN",
      "aWAVING HAND SIGNaOK HAND SIGNaTHUMBS UP SIGNbDOWN SIGNaCLAPPING HANDS SIGN",
      "aOPEN HANDS SIGNaCROWNaWOMANS HATaEYEGLASSESaNECKTIEaT-SHIRTaJEANSaDRESSaKIMONOaBIKINI",
      "aWOMANS CLOTHESaPURSEaHANDBAGaPOUCHaMANS SHOEaATHLETIC SHOEaHIGH-HEELED SHOE",
      "aWOMANS SANDALbBOOTSaFOOTPRINTSaBUST IN SILHOUETTEaBUSTS IN SILHOUETTEaBOYaGIRLaMAN",
      "aWOMANaFAMILYaMAN AND WOMAN HOLDING HANDSaTWO MEN HOLDING HANDSbWOMEN HOLDING HANDS",
      "aPOLICE OFFICERaWOMAN WITH BUNNY EARSaBRIDE WITH VEILaPERSON WITH BLOND HAIR",
      "aMAN WITH GUA PI MAOcTURBANaOLDER MANbWOMANaBABYaCONSTRUCTION WORKERaPRINCESS",
      "aJAPANESE OGREbGOBLINaGHOSTaBABY ANGELaEXTRATERRESTRIAL ALIENaALIEN MONSTERaIMPaSKULL",
      "aINFORMATION DESK PERSONaGUARDSMANaDANCERaLIPSTICKaNAIL POLISHaFACE MASSAGEaHAIRCUT",
      "aBARBER POLEaSYRINGEaPILLaKISS MARKaLOVE LETTERaRINGaGEM STONEaKISSaBOUQUET",
      "aCOUPLE WITH HEARTaWEDDINGaBEATING HEARTaBROKEN HEARTaTWO HEARTSaSPARKLING HEART",
      "aGROWING HEARTaHEART WITH ARROWaBLUE HEARTaGREEN HEARTaYELLOW HEARTaPURPLE HEART",
      "aHEART WITH RIBBONaREVOLVING HEARTSaHEART DECORATIONaDIAMOND SHAPE WITH A DOT INSIDE",
      "aELECTRIC LIGHT BULBaANGER SYMBOLaBOMBaSLEEPING SYMBOLaCOLLISION SYMBOL",
      "aSPLASHING SWEAT SYMBOLaDROPLETaDASH SYMBOLaPILE OF POOaFLEXED BICEPSaDIZZY SYMBOL",
      "aSPEECH BALLOONaTHOUGHT BALLOONaWHITE FLOWERaHUNDRED POINTS SYMBOLaMONEY BAG",
      "aCURRENCY EXCHANGEaHEAVY DOLLAR SIGNaCREDIT CARDaBANKNOTE WITH YEN SIGNcDOLLAR SIGN",
      "cEURO SIGNcPOUND SIGNaMONEY WITH WINGSaCHART WITH UPWARDS TREND AND YEN SIGNaSEAT",
      "aPERSONAL COMPUTERaBRIEFCASEaMINIDISCaFLOPPY DISKaOPTICAL DISCaDVDaFILE FOLDER",
      "aOPEN FILE FOLDERaPAGE WITH CURLbFACING UPaCALENDARaTEAR-OFF CALENDARaCARD INDEX",
      "aCHART WITH UPWARDS TRENDcDOWNWARDS TRENDaBAR CHARTaCLIPBOARDaPUSHPINaROUND PUSHPIN",
      "aPAPERCLIPaSTRAIGHT RULERaTRIANGULAR RULERaBOOKMARK TABSaLEDGERaNOTEBOOK",
      "bWITH DECORATIVE COVERaCLOSED BOOKaOPEN BOOKaGREEN BOOKaBLUE BOOKaORANGE BOOKaBOOKS",
      "aNAME BADGEaSCROLLaMEMOaTELEPHONE RECEIVERaPAGERaFAX MACHINEaSATELLITE ANTENNA",
      "aPUBLIC ADDRESS LOUDSPEAKERaCHEERING MEGAPHONEaOUTBOX TRAYaINBOX TRAYaPACKAGE",
      "aE-MAIL SYMBOLaINCOMING ENVELOPEaENVELOPE WITH DOWNWARDS ARROW ABOVE",
      "aCLOSED MAILBOX WITH LOWERED FLAGdRAISED FLAGaOPEN MAILBOX WITH RAISED FLAG",
      "dLOWERED FLAGaPOSTBOXaPOSTAL HORNaNEWSPAPERaMOBILE PHONEcWITH RIGHTWARDS ARROW AT LEFT",
      "aVIBRATION MODEaMOBILE PHONE OFFaNO MOBILE PHONESaANTENNA WITH BARSaCAMERAbWITH FLASH",
      "aVIDEO CAMERAaTELEVISIONaRADIOaVIDEOCASSETTEaFILM PROJECTORaPORTABLE STEREO",
      "aPRAYER BEADSaTWISTED RIGHTWARDS ARROWS",
      "aCLOCKWISE RIGHTWARDS AND LEFTWARDS OPEN CIRCLE ARROWShWITH CIRCLED ONE OVERLAY",
      "bDOWNWARDS AND UPWARDS OPEN CIRCLE ARROWS",
      "aANTICLOCKWISE DOWNWARDS AND UPWARDS OPEN CIRCLE ARROWSaLOW BRIGHTNESS SYMBOL",
      "aHIGH BRIGHTNESS SYMBOLaSPEAKER WITH CANCELLATION STROKEaSPEAKERbWITH ONE SOUND WAVE",
      "cTHREE SOUND WAVESaBATTERYaELECTRIC PLUGaLEFT-POINTING MAGNIFYING GLASS",
      "aRIGHT-POINTING MAGNIFYING GLASSaLOCK WITH INK PENaCLOSED LOCK WITH KEYaKEYaLOCK",
      "aOPEN LOCKaBELLbWITH CANCELLATION STROKEaBOOKMARKaLINK SYMBOLaRADIO BUTTON",
      "aBACK WITH LEFTWARDS ARROW ABOVEaEND WITH LEFTWARDS ARROW ABOVE",
      "aON WITH EXCLAMATION MARK WITH LEFT RIGHT ARROW ABOVEaSOON WITH RIGHTWARDS ARROW ABOVE",
      "aTOP WITH UPWARDS ARROW ABOVEaNO ONE UNDER EIGHTEEN SYMBOLaKEYCAP TEN",
      "aINPUT SYMBOL FOR LATIN CAPITAL LETTERSeSMALL LETTERSdNUMBERSdSYMBOLSdLATIN LETTERS",
      "aFIREaELECTRIC TORCHaWRENCHaHAMMERaNUT AND BOLTaHOCHOaPISTOLaMICROSCOPEaTELESCOPE",
      "aCRYSTAL BALLaSIX POINTED STAR WITH MIDDLE DOTaJAPANESE SYMBOL FOR BEGINNER",
      "aTRIDENT EMBLEMaBLACK SQUARE BUTTONaWHITE SQUARE BUTTONaLARGE RED CIRCLEbBLUE CIRCLE",
      "bORANGE DIAMONDbBLUE DIAMONDaSMALL ORANGE DIAMONDbBLUE DIAMONDaUP-POINTING RED TRIANGLE",
      "aDOWN-POINTING RED TRIANGLEaUP-POINTING SMALL RED TRIANGLE",
      "aDOWN-POINTING SMALL RED TRIANGLEaLOWER RIGHT SHADOWED WHITE CIRCLE",
      "aUPPER RIGHT SHADOWED WHITE CIRCLEaCIRCLED CROSS POMMEE",
      "aCROSS POMMEE WITH HALF-CIRCLE BELOWbPOMMEEaNOTCHED LEFT SEMICIRCLE WITH THREE DOTS",
      "bRIGHT SEMICIRCLE WITH THREE DOTSaSYMBOL FOR MARKS CHAPTERaWHITE LATIN CROSS",
      "aHEAVY LATIN CROSSaCELTIC CROSSaOM SYMBOLaDOVE OF PEACEaKAABAaMOSQUEaSYNAGOGUE",
      "aMENORAH WITH NINE BRANCHESaBOWL OF HYGIEIAaCLOCK FACE ONE OCLOCKcTWO OCLOCK",
      "cTHREE OCLOCKcFOUR OCLOCKcFIVE OCLOCKcSIX OCLOCKcSEVEN OCLOCKcEIGHT OCLOCKcNINE OCLOCK",
      "cTEN OCLOCKcELEVEN OCLOCKcTWELVE OCLOCKcONE-THIRTYcTWO-THIRTYcTHREE-THIRTYcFOUR-THIRTY",
      "cFIVE-THIRTYcSIX-THIRTYcSEVEN-THIRTYcEIGHT-THIRTYcNINE-THIRTYcTEN-THIRTYcELEVEN-THIRTY",
      "cTWELVE-THIRTYaRIGHT SPEAKERcWITH ONE SOUND WAVEdTHREE SOUND WAVESaBULLHORN",
      "bWITH SOUND WAVESaRINGING BELLaBOOKaCANDLEaMANTELPIECE CLOCKaBLACK SKULL AND CROSSBONES",
      "aNO PIRACYaHOLEaMAN IN BUSINESS SUIT LEVITATINGaSLEUTH OR SPYaDARK SUNGLASSESaSPIDER",
      "bWEBaJOYSTICKaMAN DANCINGaLEFT HAND TELEPHONE RECEIVERaTELEPHONE RECEIVER WITH PAGE",
      "aRIGHT HAND TELEPHONE RECEIVERaWHITE TOUCHTONE TELEPHONEaBLACK TOUCHTONE TELEPHONE",
      "aTELEPHONE ON TOP OF MODEMaCLAMSHELL MOBILE PHONEaBACK OF ENVELOPEaSTAMPED ENVELOPE",
      "aENVELOPE WITH LIGHTNINGaFLYING ENVELOPEaPEN OVER STAMPED ENVELOPEaLINKED PAPERCLIPS",
      "aBLACK PUSHPINaLOWER LEFT PENCILcBALLPOINT PENcFOUNTAIN PENcPAINTBRUSHcCRAYON",
      "aLEFT WRITING HANDaTURNED OK HAND SIGNaRAISED HAND WITH FINGERS SPLAYED",
      "aREVERSED RAISED HAND WITH FINGERS SPLAYEDbTHUMBS UP SIGNcDOWN SIGNbVICTORY HAND",
      "bHAND WITH MIDDLE FINGER EXTENDEDaRAISED HAND WITH PART BETWEEN MIDDLE AND RING FINGERS",
      "aWHITE DOWN POINTING LEFT HAND INDEXaSIDEWAYS WHITE LEFT POINTING INDEX",
      "cRIGHT POINTING INDEXbBLACK LEFT POINTING INDEXcRIGHT POINTING INDEX",
      "aBLACK LEFT POINTING BACKHAND INDEXbRIGHT POINTING BACKHAND INDEX",
      "aSIDEWAYS WHITE UP POINTING INDEXcDOWN POINTING INDEXbBLACK UP POINTING INDEX",
      "cDOWN POINTING INDEXaBLACK UP POINTING BACKHAND INDEXbDOWN POINTING BACKHAND INDEX",
      "bHEARTaDESKTOP COMPUTERaKEYBOARD AND MOUSEaTHREE NETWORKED COMPUTERSaPRINTER",
      "aPOCKET CALCULATORaBLACK HARD SHELL FLOPPY DISKaWHITE HARD SHELL FLOPPY DISK",
      "aSOFT SHELL FLOPPY DISKaTAPE CARTRIDGEaWIRED KEYBOARDaONE BUTTON MOUSEaTWO BUTTON MOUSE",
      "aTHREE BUTTON MOUSEaTRACKBALLaOLD PERSONAL COMPUTERaHARD DISKaSCREENaPRINTER ICON",
      "aFAX ICONaOPTICAL DISC ICONaDOCUMENT WITH TEXTdAND PICTUREcPICTUREaFRAME WITH PICTURE",
      "cTILEScAN XaBLACK FOLDERaFOLDERaOPEN FOLDERaCARD INDEX DIVIDERSbFILE BOXaFILE CABINET",
      "aEMPTY NOTEcPAGEcPADaNOTEbPAGEbPADaEMPTY DOCUMENTbPAGEbPAGESaDOCUMENTaPAGEaPAGES",
      "aWASTEBASKETaSPIRAL NOTE PADbCALENDAR PADaDESKTOP WINDOWaMINIMIZEaMAXIMIZEaOVERLAP",
      "aCLOCKWISE RIGHT AND LEFT SEMICIRCLE ARROWSaCANCELLATION XaINCREASE FONT SIZE SYMBOL",
      "aDECREASE FONT SIZE SYMBOLaCOMPRESSIONaOLD KEYaROLLED-UP NEWSPAPER",
      "aPAGE WITH CIRCLED TEXTaSTOCK CHARTaDAGGER KNIFEaLIPSaSPEAKING HEAD IN SILHOUETTE",
      "aTHREE RAYS ABOVEcBELOWcLEFTcRIGHTaLEFT SPEECH BUBBLEaRIGHT SPEECH BUBBLE",
      "aTWO SPEECH BUBBLESaTHREE SPEECH BUBBLESaLEFT THOUGHT BUBBLEaRIGHT THOUGHT BUBBLE",
      "aLEFT ANGER BUBBLEaRIGHT ANGER BUBBLEaMOOD BUBBLEaLIGHTNING MOOD BUBBLEbMOOD",
      "aBALLOT BOX WITH BALLOTbSCRIPT XbBOX WITH SCRIPT XbBOLD SCRIPT XbBOX WITH BOLD SCRIPT X",
      "aLIGHT CHECK MARKaBALLOT BOX WITH BOLD CHECKaWORLD MAPaMOUNT FUJIaTOKYO TOWER",
      "aSTATUE OF LIBERTYaSILHOUETTE OF JAPANaMOYAIaGRINNING FACEcWITH SMILING EYES",
      "aFACE WITH TEARS OF JOYaSMILING FACE WITH OPEN MOUTHfAND SMILING EYESgCOLD SWEAT",
      "gTIGHTLY-CLOSED EYESdHALOdHORNSaWINKING FACEaSMILING FACE WITH SMILING EYES",
      "aFACE SAVOURING DELICIOUS FOODaRELIEVED FACEaSMILING FACE WITH HEART-SHAPED EYES",
      "dSUNGLASSESaSMIRKING FACEaNEUTRAL FACEaEXPRESSIONLESS FACEaUNAMUSED FACE",
      "aFACE WITH COLD SWEATaPENSIVE FACEaCONFUSED FACEaCONFOUNDED FACEaKISSING FACE",
      "aFACE THROWING A KISSaKISSING FACE WITH SMILING EYESdCLOSED EYES",
      "aFACE WITH STUCK-OUT TONGUEeAND WINKING EYEfTIGHTLY-CLOSED EYESaDISAPPOINTED FACE",
      "aWORRIED FACEaANGRY FACEaPOUTING FACEaCRYING FACEaPERSEVERING FACE",
      "aFACE WITH LOOK OF TRIUMPHaDISAPPOINTED BUT RELIEVED FACEaFROWNING FACE WITH OPEN MOUTH",
      "aANGUISHED FACEaFEARFUL FACEaWEARY FACEaSLEEPY FACEaTIRED FACEaGRIMACING FACE",
      "aLOUDLY CRYING FACEaFACE WITH OPEN MOUTHaHUSHED FACE",
      "aFACE WITH OPEN MOUTH AND COLD SWEATbSCREAMING IN FEARaASTONISHED FACEaFLUSHED FACE",
      "aSLEEPING FACEaDIZZY FACEaFACE WITHOUT MOUTHbWITH MEDICAL MASK",
      "aGRINNING CAT FACE WITH SMILING EYESaCAT FACE WITH TEARS OF JOY",
      "aSMILING CAT FACE WITH OPEN MOUTHeHEART-SHAPED EYESaCAT FACE WITH WRY SMILE",
      "aKISSING CAT FACE WITH CLOSED EYESaPOUTING CAT FACEaCRYING CAT FACEaWEARY CAT FACE",
      "aSLIGHTLY FROWNING FACEbSMILING FACEaUPSIDE-DOWN FACEaFACE WITH ROLLING EYES",
      "cNO GOOD GESTUREcOK GESTUREaPERSON BOWING DEEPLYaSEE-NO-EVIL MONKEYaHEAR-NO-EVIL MONKEY",
      "aSPEAK-NO-EVIL MONKEYaHAPPY PERSON RAISING ONE HAND",
      "aPERSON RAISING BOTH HANDS IN CELEBRATIONbFROWNINGbWITH POUTING FACEcFOLDED HANDS",
      "aNORTH WEST POINTING LEAFaSOUTH WEST POINTING LEAFaNORTH EAST POINTING LEAF",
      "aSOUTH EAST POINTING LEAFaTURNED NORTH WEST POINTING LEAFbSOUTH WEST POINTING LEAF",
      "bNORTH EAST POINTING LEAFbSOUTH EAST POINTING LEAFaNORTH WEST POINTING VINE LEAF",
      "aSOUTH WEST POINTING VINE LEAFaNORTH EAST POINTING VINE LEAF",
      "aSOUTH EAST POINTING VINE LEAFaHEAVY NORTH WEST POINTING VINE LEAF",
      "bSOUTH WEST POINTING VINE LEAFbNORTH EAST POINTING VINE LEAF",
      "bSOUTH EAST POINTING VINE LEAFaNORTH WEST POINTING BUDaSOUTH WEST POINTING BUD",
      "aNORTH EAST POINTING BUDaSOUTH EAST POINTING BUDaHEAVY NORTH WEST POINTING BUD",
      "bSOUTH WEST POINTING BUDbNORTH EAST POINTING BUDbSOUTH EAST POINTING BUD",
      "aHOLLOW QUILT SQUARE ORNAMENTeIN BLACK SQUAREaSOLID QUILT SQUARE ORNAMENT",
      "eIN BLACK SQUAREaLEFTWARDS ROCKETaUPWARDS ROCKETaRIGHTWARDS ROCKETaDOWNWARDS ROCKET",
      "aSCRIPT LIGATURE ET ORNAMENTaHEAVY SCRIPT LIGATURE ET ORNAMENT",
      "aLIGATURE OPEN ET ORNAMENTaHEAVY LIGATURE OPEN ET ORNAMENTbAMPERSAND ORNAMENT",
      "aSWASH AMPERSAND ORNAMENTaSANS-SERIF HEAVY DOUBLE TURNED COMMA QUOTATION MARK ORNAMENT",
      "dCOMMA QUOTATION MARK ORNAMENTcLOW DOUBLE COMMA QUOTATION MARK ORNAMENT",
      "aHEAVY INTERROBANG ORNAMENTaSANS-SERIF INTERROBANG ORNAMENT",
      "aHEAVY SANS-SERIF INTERROBANG ORNAMENTaVERY HEAVY SOLIDUScREVERSE SOLIDUSaCHECKER BOARD",
      "aREVERSE CHECKER BOARDaROCKETaHELICOPTERaSTEAM LOCOMOTIVEaRAILWAY CARaHIGH-SPEED TRAIN",
      "cWITH BULLET NOSEaTRAINaMETROaLIGHT RAILaSTATIONaTRAMbCARaBUSaONCOMING BUSaTROLLEYBUS",
      "aBUS STOPaMINIBUSaAMBULANCEaFIRE ENGINEaPOLICE CARaONCOMING POLICE CARaTAXI",
      "aONCOMING TAXIaAUTOMOBILEaONCOMING AUTOMOBILEaRECREATIONAL VEHICLEaDELIVERY TRUCK",
      "aARTICULATED LORRYaTRACTORaMONORAILaMOUNTAIN RAILWAYaSUSPENSION RAILWAY",
      "aMOUNTAIN CABLEWAYaAERIAL TRAMWAYaSHIPaROWBOATaSPEEDBOATaHORIZONTAL TRAFFIC LIGHT",
      "aVERTICAL TRAFFIC LIGHTaCONSTRUCTION SIGNaPOLICE CARS REVOLVING LIGHT",
      "aTRIANGULAR FLAG ON POSTaDOORaNO ENTRY SIGNaSMOKING SYMBOLaNO SMOKING SYMBOL",
      "aPUT LITTER IN ITS PLACE SYMBOLaDO NOT LITTER SYMBOLaPOTABLE WATER SYMBOL",
      "aNON-POTABLE WATER SYMBOLaBICYCLEaNO BICYCLESaBICYCLISTaMOUNTAIN BICYCLISTaPEDESTRIAN",
      "aNO PEDESTRIANSaCHILDREN CROSSINGaMENS SYMBOLaWOMENS SYMBOLaRESTROOMaBABY SYMBOLaTOILET",
      "aWATER CLOSETaSHOWERaBATHaBATHTUBaPASSPORT CONTROLaCUSTOMSaBAGGAGE CLAIMaLEFT LUGGAGE",
      "aTRIANGLE WITH ROUNDED CORNERSaPROHIBITED SIGNaCIRCLED INFORMATION SOURCEaBOYS SYMBOL",
      "aGIRLS SYMBOLaCOUCH AND LAMPaSLEEPING ACCOMMODATIONaSHOPPING BAGSaBELLHOP BELLaBED",
      "aPLACE OF WORSHIPaOCTAGONAL SIGNaSHOPPING TROLLEYaSTUPAaPAGODAaHINDU TEMPLEaHUT",
      "aELEVATOR"]⟩]

def namesFrom1F6DD : List NameRun :=
  [⟨0x1f6dd, ["aPLAYGROUND SLIDEaWHEELaRING BUOYaHAMMER AND WRENCHaSHIELDaOIL DRUMaMOTORWAY",
      "aRAILWAY TRACKaMOTOR BOATaUP-POINTING MILITARY AIRPLANEbAIRPLANEbSMALL AIRPLANE",
      "aSMALL AIRPLANEaNORTHEAST-POINTING AIRPLANEaAIRPLANE DEPARTUREbARRIVING"]⟩,
    ⟨0x1f6f0, ["aSATELLITEaONCOMING FIRE ENGINEaDIESEL LOCOMOTIVEaPASSENGER SHIPaSCOOTER",
      "aMOTOR SCOOTERaCANOEaSLEDaFLYING SAUCERaSKATEBOARDaAUTO RICKSHAWaPICKUP TRUCK",
      "aROLLER SKATE"]⟩,
    ⟨0x1f700, ["aALCHEMICAL SYMBOL FOR QUINTESSENCEdAIRdFIREdEARTHdWATERdAQUAFORTISdAQUA REGIA",
      "eREGIA-2eVITAEeVITAE-2dVINEGARdVINEGAR-2dVINEGAR-3dSULFURdPHILOSOPHERS SULFUR",
      "dBLACK SULFURdMERCURY SUBLIMATEeSUBLIMATE-2eSUBLIMATE-3dCINNABARdSALTdNITREdVITRIOL",
      "dVITRIOL-2dROCK SALTeSALT-2dGOLDdSILVERdIRON OREeORE-2dCROCUS OF IRONdREGULUS OF IRON",
      "dCOPPER OREdIRON-COPPER OREdSUBLIMATE OF COPPERdCROCUS OF COPPERfCOPPER-2",
      "dCOPPER ANTIMONIATEdSALT OF COPPER ANTIMONIATEdSUBLIMATE OF SALT OF COPPERdVERDIGRIS",
      "dTIN OREdLEAD OREdANTIMONY OREdSUBLIMATE OF ANTIMONYdSALT OF ANTIMONY",
      "dSUBLIMATE OF SALT OF ANTIMONYdVINEGAR OF ANTIMONYdREGULUS OF ANTIMONYfANTIMONY-2",
      "dREGULUSdREGULUS-2dREGULUS-3dREGULUS-4dALKALIdALKALI-2dMARCASITEdSAL-AMMONIACdARSENIC",
      "dREALGARdREALGAR-2dAURIPIGMENTdBISMUTH OREdTARTARdTARTAR-2dQUICK LIMEdBORAXdBORAX-2",
      "dBORAX-3dALUMdOILdSPIRITdTINCTUREdGUMdWAXdPOWDERdCALXdTUTTYdCAPUT MORTUUM",
      "dSCEPTER OF JOVEdCADUCEUSdTRIDENTdSTARRED TRIDENTdLODESTONEdSOAPdURINEdHORSE DUNGdASHES",
      "dPOT ASHESdBRICKdPOWDERED BRICKdAMALGAMdSTRATUM SUPER STRATUMfSTRATUM-2dSUBLIMATION",
      "dPRECIPITATEdDISTILLdDISSOLVEdDISSOLVE-2dPURIFYdPUTREFACTIONdCRUCIBLEdCRUCIBLE-2",
      "dCRUCIBLE-3dCRUCIBLE-4dCRUCIBLE-5dALEMBICdBATH OF MARYfVAPOURSdRETORTdHOURdNIGHT",
      "dDAY-NIGHTdMONTHdHALF DRAMeOUNCE"]⟩,
    ⟨0x1f780, ["aBLACK LEFT-POINTING ISOSCELES RIGHT TRIANGLE",
      "bUP-POINTING ISOSCELES RIGHT TRIANGLEbRIGHT-POINTING ISOSCELES RIGHT TRIANGLE",
      "bDOWN-POINTING ISOSCELES RIGHT TRIANGLEbSLIGHTLY SMALL CIRCLEaMEDIUM BOLD WHITE CIRCLE",
      "aBOLD WHITE CIRCLEaHEAVY WHITE CIRCLEaVERY HEAVY WHITE CIRCLE",
      "aEXTREMELY HEAVY WHITE CIRCLEaWHITE CIRCLE CONTAINING BLACK SMALL CIRCLEaROUND TARGET",
      "aBLACK TINY SQUAREbSLIGHTLY SMALL SQUAREaLIGHT WHITE SQUAREaMEDIUM WHITE SQUARE",
      "aBOLD WHITE SQUAREaHEAVY WHITE SQUAREaVERY HEAVY WHITE SQUARE",
      "aEXTREMELY HEAVY WHITE SQUAREaWHITE SQUARE CONTAINING BLACK VERY SMALL SQUARE",
      "eMEDIUM SQUAREaSQUARE TARGETaBLACK TINY DIAMONDbVERY SMALL DIAMONDbMEDIUM SMALL DIAMOND",
      "aWHITE DIAMOND CONTAINING BLACK VERY SMALL DIAMONDeMEDIUM DIAMONDaDIAMOND TARGET",
      "aBLACK TINY LOZENGEbVERY SMALL LOZENGEbMEDIUM SMALL LOZENGE",
      "aWHITE LOZENGE CONTAINING BLACK SMALL LOZENGEaTHIN GREEK CROSSaLIGHT GREEK CROSS",
      "aMEDIUM GREEK CROSSaBOLD GREEK CROSSaVERY BOLD GREEK CROSSbHEAVY GREEK CROSS",
      "aEXTREMELY HEAVY GREEK CROSSaTHIN SALTIREaLIGHT SALTIREaMEDIUM SALTIREaBOLD SALTIRE",
      "aHEAVY SALTIREaVERY HEAVY SALTIREaEXTREMELY HEAVY SALTIREaLIGHT FIVE SPOKED ASTERISK",
      "aMEDIUM FIVE SPOKED ASTERISKaBOLD FIVE SPOKED ASTERISKaHEAVY FIVE SPOKED ASTERISK",
      "aVERY HEAVY FIVE SPOKED ASTERISKaEXTREMELY HEAVY FIVE SPOKED ASTERISK",
      "aLIGHT SIX SPOKED ASTERISKaMEDIUM SIX SPOKED ASTERISKaBOLD SIX SPOKED ASTERISK",
      "aHEAVY SIX SPOKED ASTERISKaVERY HEAVY SIX SPOKED ASTERISK",
      "aEXTREMELY HEAVY SIX SPOKED ASTERISKaLIGHT EIGHT SPOKED ASTERISK",
      "aMEDIUM EIGHT SPOKED ASTERISKaBOLD EIGHT SPOKED ASTERISKaHEAVY EIGHT SPOKED ASTERISK",
      "aVERY HEAVY EIGHT SPOKED ASTERISKaLIGHT THREE POINTED BLACK STAR",
      "aMEDIUM THREE POINTED BLACK STARaTHREE POINTED BLACK STAR",
      "aMEDIUM THREE POINTED PINWHEEL STARaLIGHT FOUR POINTED BLACK STAR",
      "aMEDIUM FOUR POINTED BLACK STARaFOUR POINTED BLACK STAR",
      "aMEDIUM FOUR POINTED PINWHEEL STARaREVERSE LIGHT FOUR POINTED PINWHEEL STAR",
      "aLIGHT FIVE POINTED BLACK STARaHEAVY FIVE POINTED BLACK STAR",
      "aMEDIUM SIX POINTED BLACK STARaHEAVY SIX POINTED BLACK STARaSIX POINTED PINWHEEL STAR",
      "aMEDIUM EIGHT POINTED BLACK STARaHEAVY EIGHT POINTED BLACK STAR",
      "aVERY HEAVY EIGHT POINTED BLACK STARaHEAVY EIGHT POINTED PINWHEEL STAR",
      "aLIGHT TWELVE POINTED BLACK STARaHEAVY TWELVE POINTED BLACK STARdPINWHEEL STAR",
      "aCIRCLED TRIANGLEaNEGATIVE CIRCLED TRIANGLEaCIRCLED SQUAREaNEGATIVE CIRCLED SQUARE"]⟩,
    ⟨0x1f7e0, ["aLARGE ORANGE CIRCLEbYELLOW CIRCLEbGREEN CIRCLEbPURPLE CIRCLEbBROWN CIRCLE",
      "bRED SQUAREbBLUE SQUAREbORANGE SQUAREbYELLOW SQUAREbGREEN SQUAREbPURPLE SQUARE",
      "bBROWN SQUARE"]⟩,
    ⟨0x1f7f0, ["aHEAVY EQUALS SIGN"]⟩,
    ⟨0x1f800, ["aLEFTWARDS ARROW WITH SMALL TRIANGLE ARROWHEAD",
      "aUPWARDS ARROW WITH SMALL TRIANGLE ARROWHEAD",
      "aRIGHTWARDS ARROW WITH SMALL TRIANGLE ARROWHEAD",
      "aDOWNWARDS ARROW WITH SMALL TRIANGLE ARROWHEAD",
      "aLEFTWARDS ARROW WITH MEDIUM TRIANGLE ARROWHEAD",
      "aUPWARDS ARROW WITH MEDIUM TRIANGLE ARROWHEAD",
      "aRIGHTWARDS ARROW WITH MEDIUM TRIANGLE ARROWHEAD",
      "aDOWNWARDS ARROW WITH MEDIUM TRIANGLE ARROWHEAD",
      "aLEFTWARDS ARROW WITH LARGE TRIANGLE ARROWHEAD",
      "aUPWARDS ARROW WITH LARGE TRIANGLE ARROWHEAD",
      "aRIGHTWARDS ARROW WITH LARGE TRIANGLE ARROWHEAD",
      "aDOWNWARDS ARROW WITH LARGE TRIANGLE ARROWHEAD"]⟩,
    ⟨0x1f810, ["aLEFTWARDS ARROW WITH SMALL EQUILATERAL ARROWHEAD",
      "aUPWARDS ARROW WITH SMALL EQUILATERAL ARROWHEAD",
      "aRIGHTWARDS ARROW WITH SMALL EQUILATERAL ARROWHEAD",
      "aDOWNWARDS ARROW WITH SMALL EQUILATERAL ARROWHEAD",
      "aLEFTWARDS ARROW WITH EQUILATERAL ARROWHEADaUPWARDS ARROW WITH EQUILATERAL ARROWHEAD",
      "aRIGHTWARDS ARROW WITH EQUILATERAL ARROWHEADaDOWNWARDS ARROW WITH EQUILATERAL ARROWHEAD",
      "aHEAVY LEFTWARDS ARROW WITH EQUILATERAL ARROWHEAD",
      "bUPWARDS ARROW WITH EQUILATERAL ARROWHEADbRIGHTWARDS ARROW WITH EQUILATERAL ARROWHEAD",
      "bDOWNWARDS ARROW WITH EQUILATERAL ARROWHEAD",
      "bLEFTWARDS ARROW WITH LARGE EQUILATERAL ARROWHEAD",
      "bUPWARDS ARROW WITH LARGE EQUILATERAL ARROWHEAD",
      "bRIGHTWARDS ARROW WITH LARGE EQUILATERAL ARROWHEAD",
      "bDOWNWARDS ARROW WITH LARGE EQUILATERAL ARROWHEAD",
      "aLEFTWARDS TRIANGLE-HEADED ARROW WITH NARROW SHAFT",
      "aUPWARDS TRIANGLE-HEADED ARROW WITH NARROW SHAFT",
      "aRIGHTWARDS TRIANGLE-HEADED ARROW WITH NARROW SHAFT",
      "aDOWNWARDS TRIANGLE-HEADED ARROW WITH NARROW SHAFT",
      "aLEFTWARDS TRIANGLE-HEADED ARROW WITH MEDIUM SHAFT",
      "aUPWARDS TRIANGLE-HEADED ARROW WITH MEDIUM SHAFT",
      "aRIGHTWARDS TRIANGLE-HEADED ARROW WITH MEDIUM SHAFT",
      "aDOWNWARDS TRIANGLE-HEADED ARROW WITH MEDIUM SHAFT",
      "aLEFTWARDS TRIANGLE-HEADED ARROW WITH BOLD SHAFT",
      "aUPWARDS TRIANGLE-HEADED ARROW WITH BOLD SHAFT",
      "aRIGHTWARDS TRIANGLE-HEADED ARROW WITH BOLD SHAFT",
      "aDOWNWARDS TRIANGLE-HEADED ARROW WITH BOLD SHAFT",
      "aLEFTWARDS TRIANGLE-HEADED ARROW WITH HEAVY SHAFT",
      "aUPWARDS TRIANGLE-HEADED ARROW WITH HEAVY SHAFT",
      "aRIGHTWARDS TRIANGLE-HEADED ARROW WITH HEAVY SHAFT",
      "aDOWNWARDS TRIANGLE-HEADED ARROW WITH HEAVY SHAFT",
      "aLEFTWARDS TRIANGLE-HEADED ARROW WITH VERY HEAVY SHAFT",
      "aUPWARDS TRIANGLE-HEADED ARROW WITH VERY HEAVY SHAFT",
      "aRIGHTWARDS TRIANGLE-HEADED ARROW WITH VERY HEAVY SHAFT",
      "aDOWNWARDS TRIANGLE-HEADED ARROW WITH VERY HEAVY SHAFTaLEFTWARDS FINGER-POST ARROW",
      "aUPWARDS FINGER-POST ARROWaRIGHTWARDS FINGER-POST ARROWaDOWNWARDS FINGER-POST ARROW",
      "aLEFTWARDS SQUARED ARROWaUPWARDS SQUARED ARROWaRIGHTWARDS SQUARED ARROW",
      "aDOWNWARDS SQUARED ARROWaLEFTWARDS COMPRESSED ARROWaUPWARDS COMPRESSED ARROW",
      "aRIGHTWARDS COMPRESSED ARROWaDOWNWARDS COMPRESSED ARROW",
      "aLEFTWARDS HEAVY COMPRESSED ARROWaUPWARDS HEAVY COMPRESSED ARROW",
      "aRIGHTWARDS HEAVY COMPRESSED ARROWaDOWNWARDS HEAVY COMPRESSED ARROW",
      "aLEFTWARDS HEAVY ARROWaUPWARDS HEAVY ARROWaRIGHTWARDS HEAVY ARROWaDOWNWARDS HEAVY ARROW"]⟩,
    ⟨0x1f850, ["aLEFTWARDS SANS-SERIF ARROWaUPWARDS SANS-SERIF ARROWaRIGHTWARDS SANS-SERIF ARROW",
      "aDOWNWARDS SANS-SERIF ARROWaNORTH WEST SANS-SERIF ARROWbEAST SANS-SERIF ARROW",
      "aSOUTH EAST SANS-SERIF ARROWbWEST SANS-SERIF ARROWaLEFT RIGHT SANS-SERIF ARROW",
      "aUP DOWN SANS-SERIF ARROW"]⟩]

def namesFrom1F860 : List NameRun :=
  [⟨0x1f860, ["aWIDE-HEADED LEFTWARDS LIGHT BARB ARROWbUPWARDS LIGHT BARB ARROW",
      "bRIGHTWARDS LIGHT BARB ARROWbDOWNWARDS LIGHT BARB ARROWbNORTH WEST LIGHT BARB ARROW",
      "cEAST LIGHT BARB ARROWbSOUTH EAST LIGHT BARB ARROWcWEST LIGHT BARB ARROW",
      "bLEFTWARDS BARB ARROWbUPWARDS BARB ARROWbRIGHTWARDS BARB ARROWbDOWNWARDS BARB ARROW",
      "bNORTH WEST BARB ARROWcEAST BARB ARROWbSOUTH EAST BARB ARROWcWEST BARB ARROW",
      "bLEFTWARDS MEDIUM BARB ARROWbUPWARDS MEDIUM BARB ARROWbRIGHTWARDS MEDIUM BARB ARROW",
      "bDOWNWARDS MEDIUM BARB ARROWbNORTH WEST MEDIUM BARB ARROWcEAST MEDIUM BARB ARROW",
      "bSOUTH EAST MEDIUM BARB ARROWcWEST MEDIUM BARB ARROWbLEFTWARDS HEAVY BARB ARROW",
      "bUPWARDS HEAVY BARB ARROWbRIGHTWARDS HEAVY BARB ARROWbDOWNWARDS HEAVY BARB ARROW",
      "bNORTH WEST HEAVY BARB ARROWcEAST HEAVY BARB ARROWbSOUTH EAST HEAVY BARB ARROW",
      "cWEST HEAVY BARB ARROWbLEFTWARDS VERY HEAVY BARB ARROWbUPWARDS VERY HEAVY BARB ARROW",
      "bRIGHTWARDS VERY HEAVY BARB ARROWbDOWNWARDS VERY HEAVY BARB ARROW",
      "bNORTH WEST VERY HEAVY BARB ARROWcEAST VERY HEAVY BARB ARROW",
      "bSOUTH EAST VERY HEAVY BARB ARROWcWEST VERY HEAVY BARB ARROW"]⟩,
    ⟨0x1f890, ["aLEFTWARDS TRIANGLE ARROWHEADaUPWARDS TRIANGLE ARROWHEAD",
      "aRIGHTWARDS TRIANGLE ARROWHEADaDOWNWARDS TRIANGLE ARROWHEAD",
      "aLEFTWARDS WHITE ARROW WITHIN TRIANGLE ARROWHEAD",
      "aUPWARDS WHITE ARROW WITHIN TRIANGLE ARROWHEAD",
      "aRIGHTWARDS WHITE ARROW WITHIN TRIANGLE ARROWHEAD",
      "aDOWNWARDS WHITE ARROW WITHIN TRIANGLE ARROWHEADaLEFTWARDS ARROW WITH NOTCHED TAIL",
      "aUPWARDS ARROW WITH NOTCHED TAILaRIGHTWARDS ARROW WITH NOTCHED TAIL",
      "aDOWNWARDS ARROW WITH NOTCHED TAILaHEAVY ARROW SHAFT WIDTH ONEeTWO THIRDSeONE HALF",
      "fTHIRDaLEFTWARDS BOTTOM-SHADED WHITE ARROWaRIGHTWARDS BOTTOM SHADED WHITE ARROW",
      "aLEFTWARDS TOP SHADED WHITE ARROWaRIGHTWARDS TOP SHADED WHITE ARROW",
      "aLEFTWARDS LEFT-SHADED WHITE ARROWaRIGHTWARDS RIGHT-SHADED WHITE ARROW",
      "aLEFTWARDS RIGHT-SHADED WHITE ARROWaRIGHTWARDS LEFT-SHADED WHITE ARROW",
      "aLEFTWARDS BACK-TILTED SHADOWED WHITE ARROWaRIGHTWARDS BACK-TILTED SHADOWED WHITE ARROW",
      "aLEFTWARDS FRONT-TILTED SHADOWED WHITE ARROW",
      "aRIGHTWARDS FRONT-TILTED SHADOWED WHITE ARROWaWHITE ARROW SHAFT WIDTH ONEeTWO THIRDS"]⟩,
    ⟨0x1f8b0, ["aARROW POINTING UPWARDS THEN NORTH WESTcRIGHTWARDS THEN CURVING SOUTH WEST"]⟩,
    ⟨0x1f900, ["aCIRCLED CROSS FORMEE WITH FOUR DOTSeTWO DOTScFORMEE",
      "aLEFT HALF CIRCLE WITH FOUR DOTSeTHREE DOTSeTWO DOTSeDOTcCIRCLEaDOWNWARD FACING HOOK",
      "cNOTCHED HOOKcHOOK WITH DOTcNOTCHED HOOK WITH DOTaPINCHED FINGERSaWHITE HEART",
      "aBROWN HEARTaPINCHING HANDaZIPPER-MOUTH FACEaMONEY-MOUTH FACEaFACE WITH THERMOMETER",
      "aNERD FACEaTHINKING FACEaFACE WITH HEAD-BANDAGEaROBOT FACEaHUGGING FACE",
      "aSIGN OF THE HORNSaCALL ME HANDaRAISED BACK OF HANDaLEFT-FACING FISTaRIGHT-FACING FIST",
      "aHANDSHAKEaHAND WITH INDEX AND MIDDLE FINGERS CROSSEDaI LOVE YOU HAND SIGN",
      "aFACE WITH COWBOY HATaCLOWN FACEaNAUSEATED FACEaROLLING ON THE FLOOR LAUGHING",
      "aDROOLING FACEaLYING FACEaFACE PALMaSNEEZING FACEaFACE WITH ONE EYEBROW RAISED",
      "aGRINNING FACE WITH STAR EYESdONE LARGE AND ONE SMALL EYE",
      "aFACE WITH FINGER COVERING CLOSED LIPSaSERIOUS FACE WITH SYMBOLS COVERING MOUTH",
      "aSMILING FACE WITH SMILING EYES AND HAND COVERING MOUTHaFACE WITH OPEN MOUTH VOMITING",
      "aSHOCKED FACE WITH EXPLODING HEADaPREGNANT WOMANaBREAST-FEEDINGaPALMS UP TOGETHER",
      "aSELFIEaPRINCEaMAN IN TUXEDOaMOTHER CHRISTMASaSHRUGaPERSON DOING CARTWHEELaJUGGLING",
      "aFENCERaMODERN PENTATHLONaWRESTLERSaWATER POLOaHANDBALLaDIVING MASKaWILTED FLOWER",
      "aDRUM WITH DRUMSTICKSaCLINKING GLASSESaTUMBLER GLASSaSPOONaGOAL NETaRIFLE",
      "aFIRST PLACE MEDALaSECOND PLACE MEDALaTHIRD PLACE MEDALaBOXING GLOVE",
      "aMARTIAL ARTS UNIFORMaCURLING STONEaLACROSSE STICK AND BALLaSOFTBALLaFLYING DISC",
      "aCROISSANTaAVOCADOaCUCUMBERaBACONaPOTATOaCARROTaBAGUETTE BREADaGREEN SALAD",
      "aSHALLOW PAN OF FOODaSTUFFED FLATBREADaEGGaGLASS OF MILKaPEANUTSaKIWIFRUITaPANCAKES",
      "aDUMPLINGaFORTUNE COOKIEaTAKEOUT BOXaCHOPSTICKSaBOWL WITH SPOONaCUP WITH STRAWaCOCONUT",
      "aBROCCOLIaPIEaPRETZELaCUT OF MEATaSANDWICHaCANNED FOODaLEAFY GREENaMANGOaMOON CAKE",
      "aBAGELaSMILING FACE WITH SMILING EYES AND THREE HEARTSaYAWNING FACE",
      "aSMILING FACE WITH TEARaFACE WITH PARTY HORN AND PARTY HATcUNEVEN EYES AND WAVY MOUTH",
      "aOVERHEATED FACEaFREEZING FACEaNINJAaDISGUISED FACEaFACE HOLDING BACK TEARS",
      "bWITH PLEADING EYESaSARIaLAB COATaGOGGLESaHIKING BOOTaFLAT SHOEaCRABaLION FACEaSCORPION",
      "aTURKEYaUNICORN FACEaEAGLEaDUCKaBATaSHARKaOWLaFOX FACEaBUTTERFLYaDEERaGORILLAaLIZARD",
      "aRHINOCEROSaSHRIMPaSQUIDaGIRAFFE FACEaZEBRA FACEaHEDGEHOGaSAUROPODaT-REXaCRICKET",
      "aKANGAROOaLLAMAaPEACOCKaHIPPOPOTAMUSaPARROTaRACCOONaLOBSTERaMOSQUITOaMICROBEaBADGER",
      "aSWANaMAMMOTHaDODOaSLOTHaOTTERaORANGUTANaSKUNKaFLAMINGOaOYSTERaBEAVERaBISONaSEAL",
      "aGUIDE DOGaPROBING CANEaEMOJI COMPONENT RED HAIRcCURLY HAIRcBALDcWHITE HAIRaBONEaLEG",
      "aFOOTaTOOTHaSUPERHEROaSUPERVILLAINaSAFETY VESTaEAR WITH HEARING AID",
      "aMOTORIZED WHEELCHAIRaMANUAL WHEELCHAIRaMECHANICAL ARMbLEGaCHEESE WEDGEaCUPCAKE",
      "aSALT SHAKERaBEVERAGE BOXaGARLICaONIONaFALAFELaWAFFLEaBUTTERaMATE DRINKaICE CUBE",
      "aBUBBLE TEAaTROLLaSTANDING PERSONaKNEELING PERSONaDEAF PERSONaFACE WITH MONOCLEaADULT",
      "aCHILDaOLDER ADULTaBEARDED PERSONaPERSON WITH HEADSCARFbIN STEAMY ROOMbCLIMBING",
      "bIN LOTUS POSITIONaMAGEaFAIRYaVAMPIREaMERPERSONaELFaGENIEaZOMBIEaBRAINaORANGE HEART",
      "aBILLED CAPaSCARFaGLOVESaCOATaSOCKSaRED GIFT ENVELOPEaFIRECRACKERaJIGSAW PUZZLE PIECE",
      "aTEST TUBEaPETRI DISHaDNA DOUBLE HELIXaCOMPASSaABACUSaFIRE EXTINGUISHERaTOOLBOXaBRICK",
      "aMAGNETaLUGGAGEaLOTION BOTTLEaSPOOL OF THREADaBALL OF YARNaSAFETY PINaTEDDY BEARaBROOM",
      "aBASKETaROLL OF PAPERaBAR OF SOAPaSPONGEaRECEIPTaNAZAR AMULETaNEUTRAL CHESS KINGcQUEEN",
      "cROOKcBISHOPcKNIGHTcPAWNaWHITE CHESS KNIGHT ROTATED FORTY-FIVE DEGREES",
      "aBLACK CHESS KNIGHT ROTATED FORTY-FIVE DEGREES",
      "aNEUTRAL CHESS KNIGHT ROTATED FORTY-FIVE DEGREES",
      "aWHITE CHESS KING ROTATED NINETY DEGREEScQUEEN ROTATED NINETY DEGREES",
      "cROOK ROTATED NINETY DEGREEScBISHOP ROTATED NINETY DEGREES",
      "cKNIGHT ROTATED NINETY DEGREEScPAWN ROTATED NINETY DEGREES",
      "aBLACK CHESS KING ROTATED NINETY DEGREEScQUEEN ROTATED NINETY DEGREES",
      "cROOK ROTATED NINETY DEGREEScBISHOP ROTATED NINETY DEGREES",
      "cKNIGHT ROTATED NINETY DEGREEScPAWN ROTATED NINETY DEGREES",
      "aNEUTRAL CHESS KING ROTATED NINETY DEGREEScQUEEN ROTATED NINETY DEGREES",
      "cROOK ROTATED NINETY DEGREEScBISHOP ROTATED NINETY DEGREES",
      "cKNIGHT ROTATED NINETY DEGREEScPAWN ROTATED NINETY DEGREES",
      "aWHITE CHESS KNIGHT ROTATED ONE HUNDRED THIRTY-FIVE DEGREES",
      "aBLACK CHESS KNIGHT ROTATED ONE HUNDRED THIRTY-FIVE DEGREES",
      "aNEUTRAL CHESS KNIGHT ROTATED ONE HUNDRED THIRTY-FIVE DEGREESaWHITE CHESS TURNED KING",
      "dQUEENdROOKdBISHOPdKNIGHTdPAWNaBLACK CHESS TURNED KINGdQUEENdROOKdBISHOPdKNIGHTdPAWN",
      "aNEUTRAL CHESS TURNED KINGdQUEENdROOKdBISHOPdKNIGHTdPAWN",
      "aWHITE CHESS KNIGHT ROTATED TWO HUNDRED TWENTY-FIVE DEGREES",
      "aBLACK CHESS KNIGHT ROTATED TWO HUNDRED TWENTY-FIVE DEGREES",
      "aNEUTRAL CHESS KNIGHT ROTATED TWO HUNDRED TWENTY-FIVE DEGREES",
      "aWHITE CHESS KING ROTATED TWO HUNDRED SEVENTY DEGREES",
      "cQUEEN ROTATED TWO HUNDRED SEVENTY DEGREEScROOK ROTATED TWO HUNDRED SEVENTY DEGREES",
      "cBISHOP ROTATED TWO HUNDRED SEVENTY DEGREEScKNIGHT ROTATED TWO HUNDRED SEVENTY DEGREES",
      "cPAWN ROTATED TWO HUNDRED SEVENTY DEGREES",
      "aBLACK CHESS KING ROTATED TWO HUNDRED SEVENTY DEGREES",
      "cQUEEN ROTATED TWO HUNDRED SEVENTY DEGREEScROOK ROTATED TWO HUNDRED SEVENTY DEGREES",
      "cBISHOP ROTATED TWO HUNDRED SEVENTY DEGREEScKNIGHT ROTATED TWO HUNDRED SEVENTY DEGREES",
      "cPAWN ROTATED TWO HUNDRED SEVENTY DEGREES",
      "aNEUTRAL CHESS KING ROTATED TWO HUNDRED SEVENTY DEGREES",
      "cQUEEN ROTATED TWO HUNDRED SEVENTY DEGREEScROOK ROTATED TWO HUNDRED SEVENTY DEGREES",
      "cBISHOP ROTATED TWO HUNDRED SEVENTY DEGREEScKNIGHT ROTATED TWO HUNDRED SEVENTY DEGREES",
      "cPAWN ROTATED TWO HUNDRED SEVENTY DEGREES",
      "aWHITE CHESS KNIGHT ROTATED THREE HUNDRED FIFTEEN DEGREES",
      "aBLACK CHESS KNIGHT ROTATED THREE HUNDRED FIFTEEN DEGREES",
      "aNEUTRAL CHESS KNIGHT ROTATED THREE HUNDRED FIFTEEN DEGREESaWHITE CHESS EQUIHOPPER",
      "aBLACK CHESS EQUIHOPPERaNEUTRAL CHESS EQUIHOPPER",
      "aWHITE CHESS EQUIHOPPER ROTATED NINETY DEGREES",
      "aBLACK CHESS EQUIHOPPER ROTATED NINETY DEGREES",
      "aNEUTRAL CHESS EQUIHOPPER ROTATED NINETY DEGREESaWHITE CHESS KNIGHT-QUEENcKNIGHT-ROOK",
      "cKNIGHT-BISHOPaBLACK CHESS KNIGHT-QUEENcKNIGHT-ROOKcKNIGHT-BISHOP"]⟩,
    ⟨0x1fa60, ["aXIANGQI RED GENERALcMANDARINcELEPHANTcHORSEcCHARIOTcCANNONcSOLDIER",
      "bBLACK GENERALcMANDARINcELEPHANTcHORSEcCHARIOTcCANNONcSOLDIER"]⟩,
    ⟨0x1fa70, ["aBALLET SHOESaONE-PIECE SWIMSUITaBRIEFSaSHORTSaTHONG SANDAL"]⟩,
    ⟨0x1fa78, ["aDROP OF BLOODaADHESIVE BANDAGEaSTETHOSCOPEaX-RAYaCRUTCH"]⟩,
    ⟨0x1fa80, ["aYO-YOaKITEaPARACHUTEaBOOMERANGaMAGIC WANDaPINATAaNESTING DOLLS"]⟩,
    ⟨0x1fa90, ["aRINGED PLANETaCHAIRaRAZORaAXEaDIYA LAMPaBANJOaMILITARY HELMETaACCORDION",
      "aLONG DRUMaCOINaCARPENTRY SAWaSCREWDRIVERaLADDERaHOOKaMIRRORaWINDOWaPLUNGER",
      "aSEWING NEEDLEaKNOTaBUCKETaMOUSE TRAPaTOOTHBRUSHaHEADSTONEaPLACARDaROCKaMIRROR BALL",
      "aIDENTIFICATION CARDaLOW BATTERYaHAMSA"]⟩]

def namesFrom1FAB0 : List NameRun :=
  [⟨0x1fab0, ["aFLYaWORMaBEETLEaCOCKROACHaPOTTED PLANTaWOODaFEATHERaLOTUSaCORALaEMPTY NEST",
      "aNEST WITH EGGS"]⟩,
    ⟨0x1fac0, ["aANATOMICAL HEARTaLUNGSaPEOPLE HUGGINGaPREGNANT MANbPERSONaPERSON WITH CROWN"]⟩,
    ⟨0x1fad0, ["aBLUEBERRIESaBELL PEPPERaOLIVEaFLATBREADaTAMALEaFONDUEaTEAPOTaPOURING LIQUID",
      "aBEANSaJAR"]⟩,
    ⟨0x1fae0, ["aMELTING FACEaSALUTING FACEaFACE WITH OPEN EYES AND HAND OVER MOUTHcPEEKING EYE",
      "cDIAGONAL MOUTHaDOTTED LINE FACEaBITING LIPaBUBBLES"]⟩,
    ⟨0x1faf0, ["aHAND WITH INDEX FINGER AND THUMB CROSSEDaRIGHTWARDS HANDaLEFTWARDS HAND",
      "aPALM DOWN HANDbUP HANDaINDEX POINTING AT THE VIEWERaHEART HANDS"]⟩,
    ⟨0x1fb00, ["aBLOCK SEXTANT-1bSEXTANT-2bSEXTANT-12bSEXTANT-3bSEXTANT-13bSEXTANT-23",
      "bSEXTANT-123bSEXTANT-4bSEXTANT-14bSEXTANT-24bSEXTANT-124bSEXTANT-34bSEXTANT-134",
      "bSEXTANT-234bSEXTANT-1234bSEXTANT-5bSEXTANT-15bSEXTANT-25bSEXTANT-125bSEXTANT-35",
      "bSEXTANT-235bSEXTANT-1235bSEXTANT-45bSEXTANT-145bSEXTANT-245bSEXTANT-1245bSEXTANT-345",
      "bSEXTANT-1345bSEXTANT-2345bSEXTANT-12345bSEXTANT-6bSEXTANT-16bSEXTANT-26bSEXTANT-126",
      "bSEXTANT-36bSEXTANT-136bSEXTANT-236bSEXTANT-1236bSEXTANT-46bSEXTANT-146bSEXTANT-1246",
      "bSEXTANT-346bSEXTANT-1346bSEXTANT-2346bSEXTANT-12346bSEXTANT-56bSEXTANT-156bSEXTANT-256",
      "bSEXTANT-1256bSEXTANT-356bSEXTANT-1356bSEXTANT-2356bSEXTANT-12356bSEXTANT-456",
      "bSEXTANT-1456bSEXTANT-2456bSEXTANT-12456bSEXTANT-3456bSEXTANT-13456bSEXTANT-23456",
      "aLOWER LEFT BLOCK DIAGONAL LOWER MIDDLE LEFT TO LOWER CENTREjRIGHT",
      "eUPPER MIDDLE LEFT TO LOWER CENTREjRIGHTfLEFT TO LOWER CENTRE",
      "bRIGHT BLOCK DIAGONAL UPPER MIDDLE LEFT TO UPPER CENTREjRIGHT",
      "eLOWER MIDDLE LEFT TO UPPER CENTREjRIGHTfLEFT TO UPPER CENTRE",
      "fMIDDLE LEFT TO UPPER MIDDLE RIGHTfCENTRE TO LOWER MIDDLE RIGHT",
      "fLEFT TO LOWER MIDDLE RIGHTfCENTRE TO UPPER MIDDLE RIGHTfLEFT TO UPPER MIDDLE RIGHT",
      "fCENTRE TO UPPER RIGHTbLEFT BLOCK DIAGONAL UPPER CENTRE TO UPPER MIDDLE RIGHT",
      "fLEFT TO UPPER MIDDLE RIGHTfCENTRE TO LOWER MIDDLE RIGHTfLEFT TO LOWER MIDDLE RIGHT",
      "fCENTRE TO LOWER RIGHTfMIDDLE LEFT TO LOWER MIDDLE RIGHT",
      "aUPPER RIGHT BLOCK DIAGONAL LOWER MIDDLE LEFT TO LOWER CENTREjRIGHT",
      "eUPPER MIDDLE LEFT TO LOWER CENTREjRIGHTfLEFT TO LOWER CENTRE",
      "bLEFT BLOCK DIAGONAL UPPER MIDDLE LEFT TO UPPER CENTREjRIGHT",
      "eLOWER MIDDLE LEFT TO UPPER CENTREjRIGHTfLEFT TO UPPER CENTRE",
      "fMIDDLE LEFT TO UPPER MIDDLE RIGHTfCENTRE TO LOWER MIDDLE RIGHT",
      "fLEFT TO LOWER MIDDLE RIGHTfCENTRE TO UPPER MIDDLE RIGHTfLEFT TO UPPER MIDDLE RIGHT",
      "fCENTRE TO UPPER RIGHTbRIGHT BLOCK DIAGONAL UPPER CENTRE TO UPPER MIDDLE RIGHT",
      "fLEFT TO UPPER MIDDLE RIGHTfCENTRE TO LOWER MIDDLE RIGHTfLEFT TO LOWER MIDDLE RIGHT",
      "fCENTRE TO LOWER RIGHTfMIDDLE LEFT TO LOWER MIDDLE RIGHT",
      "bAND RIGHT AND LOWER TRIANGULAR THREE QUARTERS BLOCK",
      "aLEFT AND LOWER AND RIGHT TRIANGULAR THREE QUARTERS BLOCK",
      "aUPPER AND LEFT AND LOWER TRIANGULAR THREE QUARTERS BLOCK",
      "aLEFT AND UPPER AND RIGHT TRIANGULAR THREE QUARTERS BLOCKbTRIANGULAR ONE QUARTER BLOCK",
      "aUPPER TRIANGULAR ONE QUARTER BLOCKaRIGHT TRIANGULAR ONE QUARTER BLOCK",
      "aLOWER TRIANGULAR ONE QUARTER BLOCKaVERTICAL ONE EIGHTH BLOCK-2dBLOCK-3dBLOCK-4dBLOCK-5",
      "dBLOCK-6dBLOCK-7aHORIZONTAL ONE EIGHTH BLOCK-2dBLOCK-3dBLOCK-4dBLOCK-5dBLOCK-6dBLOCK-7",
      "aLEFT AND LOWER ONE EIGHTH BLOCKcUPPER ONE EIGHTH BLOCK",
      "aRIGHT AND UPPER ONE EIGHTH BLOCKcLOWER ONE EIGHTH BLOCK",
      "aUPPER AND LOWER ONE EIGHTH BLOCKaHORIZONTAL ONE EIGHTH BLOCK-1358",
      "aUPPER ONE QUARTER BLOCKbTHREE EIGHTHS BLOCKbFIVE EIGHTHS BLOCKbTHREE QUARTERS BLOCK",
      "bSEVEN EIGHTHS BLOCKaRIGHT ONE QUARTER BLOCKbTHREE EIGHTHS BLOCKbFIVE EIGHTHS BLOCK",
      "bTHREE QUARTERS BLOCKbSEVEN EIGHTHS BLOCKaLEFT HALF MEDIUM SHADE",
      "aRIGHT HALF MEDIUM SHADEaUPPER HALF MEDIUM SHADEaLOWER HALF MEDIUM SHADE",
      "aINVERSE MEDIUM SHADEaUPPER HALF BLOCK AND LOWER HALF INVERSE MEDIUM SHADE",
      "cINVERSE MEDIUM SHADE AND LOWER HALF BLOCK"]⟩,
    ⟨0x1fb94, ["aLEFT HALF INVERSE MEDIUM SHADE AND RIGHT HALF BLOCKaCHECKER BOARD FILL",
      "aINVERSE CHECKER BOARD FILLaHEAVY HORIZONTAL FILLaUPPER LEFT TO LOWER RIGHT FILL",
      "bRIGHT TO LOWER LEFT FILLbAND LOWER TRIANGULAR HALF BLOCK",
      "aLEFT AND RIGHT TRIANGULAR HALF BLOCKaUPPER LEFT TRIANGULAR MEDIUM SHADE",
      "bRIGHT TRIANGULAR MEDIUM SHADEaLOWER RIGHT TRIANGULAR MEDIUM SHADE",
      "bLEFT TRIANGULAR MEDIUM SHADEaBOX DRAWINGS LIGHT DIAGONAL UPPER CENTRE TO MIDDLE LEFT",
      "iRIGHTeMIDDLE LEFT TO LOWER CENTREfRIGHT TO LOWER CENTRE",
      "eUPPER CENTRE TO MIDDLE LEFT TO LOWER CENTREiRIGHT TO LOWER CENTRE",
      "eMIDDLE LEFT TO LOWER CENTRE TO MIDDLE RIGHThUPPER CENTRE TO MIDDLE RIGHT",
      "eUPPER CENTRE TO MIDDLE LEFT AND MIDDLE RIGHT TO LOWER CENTRE",
      "iRIGHT AND MIDDLE LEFT TO LOWER CENTREjTO LOWER CENTRE TO MIDDLE LEFT",
      "iLEFT TO LOWER CENTRE TO MIDDLE RIGHT",
      "eMIDDLE LEFT TO UPPER CENTRE TO MIDDLE RIGHT TO LOWER CENTRE",
      "fRIGHT TO UPPER CENTRE TO MIDDLE LEFT TO LOWER CENTREeDIAMOND",
      "dHORIZONTAL WITH VERTICAL STROKEaARROWHEAD-SHAPED POINTERaINVERSE CHECK MARK",
      "aLEFT HALF RUNNING MANaRIGHT HALF RUNNING MAN",
      "aINVERSE DOWNWARDS ARROW WITH TIP LEFTWARDS",
      "aLEFTWARDS ARROW AND UPPER AND LOWER ONE EIGHTH BLOCK",
      "aRIGHTWARDS ARROW AND UPPER AND LOWER ONE EIGHTH BLOCK",
      "aDOWNWARDS ARROW AND RIGHT ONE EIGHTH BLOCKaUPWARDS ARROW AND RIGHT ONE EIGHTH BLOCK",
      "aLEFT HALF FOLDERaRIGHT HALF FOLDERaVOIDED GREEK CROSSaRIGHT OPEN SQUARED DOT",
      "aNEGATIVE DIAGONAL CROSScMIDDLE RIGHT TO LOWER CENTREcDIAMOND",
      "aWHITE HEAVY SALTIRE WITH ROUNDED CORNERSaLEFT THIRD WHITE RIGHT POINTING INDEX",
      "aMIDDLE THIRD WHITE RIGHT POINTING INDEXaRIGHT THIRD WHITE RIGHT POINTING INDEX",
      "aNEGATIVE SQUARED QUESTION MARKaSTICK FIGUREcWITH ARMS RAISEDcLEANING LEFTdRIGHT",
      "cWITH DRESSaWHITE UP-POINTING CHEVRON"]⟩,
    ⟨0x1fbf0, ["aSEGMENTED DIGIT ZEROcONEcTWOcTHREEcFOURcFIVEcSIXcSEVENcEIGHTcNINE"]⟩]

def namesFrom2F800 : List NameRun :=
  [⟨0x2f800, ["aCJK COMPATIBILITY IDEOGRAPH-2F800cIDEOGRAPH-2F801cIDEOGRAPH-2F802",
      "cIDEOGRAPH-2F803cIDEOGRAPH-2F804cIDEOGRAPH-2F805cIDEOGRAPH-2F806cIDEOGRAPH-2F807",
      "cIDEOGRAPH-2F808cIDEOGRAPH-2F809cIDEOGRAPH-2F80AcIDEOGRAPH-2F80BcIDEOGRAPH-2F80C",
      "cIDEOGRAPH-2F80DcIDEOGRAPH-2F80EcIDEOGRAPH-2F80FcIDEOGRAPH-2F810cIDEOGRAPH-2F811",
      "cIDEOGRAPH-2F812cIDEOGRAPH-2F813cIDEOGRAPH-2F814cIDEOGRAPH-2F815cIDEOGRAPH-2F816",
      "cIDEOGRAPH-2F817cIDEOGRAPH-2F818cIDEOGRAPH-2F819cIDEOGRAPH-2F81AcIDEOGRAPH-2F81B",
      "cIDEOGRAPH-2F81CcIDEOGRAPH-2F81DcIDEOGRAPH-2F81EcIDEOGRAPH-2F81FcIDEOGRAPH-2F820",
      "cIDEOGRAPH-2F821cIDEOGRAPH-2F822cIDEOGRAPH-2F823cIDEOGRAPH-2F824cIDEOGRAPH-2F825",
      "cIDEOGRAPH-2F826cIDEOGRAPH-2F827cIDEOGRAPH-2F828cIDEOGRAPH-2F829cIDEOGRAPH-2F82A",
      "cIDEOGRAPH-2F82BcIDEOGRAPH-2F82CcIDEOGRAPH-2F82DcIDEOGRAPH-2F82EcIDEOGRAPH-2F82F",
      "cIDEOGRAPH-2F830cIDEOGRAPH-2F831cIDEOGRAPH-2F832cIDEOGRAPH-2F833cIDEOGRAPH-2F834",
      "cIDEOGRAPH-2F835cIDEOGRAPH-2F836cIDEOGRAPH-2F837cIDEOGRAPH-2F838cIDEOGRAPH-2F839",
      "cIDEOGRAPH-2F83AcIDEOGRAPH-2F83BcIDEOGRAPH-2F83CcIDEOGRAPH-2F83DcIDEOGRAPH-2F83E",
      "cIDEOGRAPH-2F83FcIDEOGRAPH-2F840cIDEOGRAPH-2F841cIDEOGRAPH-2F842cIDEOGRAPH-2F843",
      "cIDEOGRAPH-2F844cIDEOGRAPH-2F845cIDEOGRAPH-2F846cIDEOGRAPH-2F847cIDEOGRAPH-2F848",
      "cIDEOGRAPH-2F849cIDEOGRAPH-2F84AcIDEOGRAPH-2F84BcIDEOGRAPH-2F84CcIDEOGRAPH-2F84D",
      "cIDEOGRAPH-2F84EcIDEOGRAPH-2F84FcIDEOGRAPH-2F850cIDEOGRAPH-2F851cIDEOGRAPH-2F852",
      "cIDEOGRAPH-2F853cIDEOGRAPH-2F854cIDEOGRAPH-2F855cIDEOGRAPH-2F856cIDEOGRAPH-2F857",
      "cIDEOGRAPH-2F858cIDEOGRAPH-2F859cIDEOGRAPH-2F85AcIDEOGRAPH-2F85BcIDEOGRAPH-2F85C",
      "cIDEOGRAPH-2F85DcIDEOGRAPH-2F85EcIDEOGRAPH-2F85FcIDEOGRAPH-2F860cIDEOGRAPH-2F861",
      "cIDEOGRAPH-2F862cIDEOGRAPH-2F863cIDEOGRAPH-2F864cIDEOGRAPH-2F865cIDEOGRAPH-2F866",
      "cIDEOGRAPH-2F867cIDEOGRAPH-2F868cIDEOGRAPH-2F869cIDEOGRAPH-2F86AcIDEOGRAPH-2F86B",
      "cIDEOGRAPH-2F86CcIDEOGRAPH-2F86DcIDEOGRAPH-2F86EcIDEOGRAPH-2F86FcIDEOGRAPH-2F870",
      "cIDEOGRAPH-2F871cIDEOGRAPH-2F872cIDEOGRAPH-2F873cIDEOGRAPH-2F874cIDEOGRAPH-2F875",
      "cIDEOGRAPH-2F876cIDEOGRAPH-2F877cIDEOGRAPH-2F878cIDEOGRAPH-2F879cIDEOGRAPH-2F87A",
      "cIDEOGRAPH-2F87BcIDEOGRAPH-2F87CcIDEOGRAPH-2F87DcIDEOGRAPH-2F87EcIDEOGRAPH-2F87F",
      "cIDEOGRAPH-2F880cIDEOGRAPH-2F881cIDEOGRAPH-2F882cIDEOGRAPH-2F883cIDEOGRAPH-2F884",
      "cIDEOGRAPH-2F885cIDEOGRAPH-2F886cIDEOGRAPH-2F887cIDEOGRAPH-2F888cIDEOGRAPH-2F889",
      "cIDEOGRAPH-2F88AcIDEOGRAPH-2F88BcIDEOGRAPH-2F88CcIDEOGRAPH-2F88DcIDEOGRAPH-2F88E",
      "cIDEOGRAPH-2F88FcIDEOGRAPH-2F890cIDEOGRAPH-2F891cIDEOGRAPH-2F892cIDEOGRAPH-2F893",
      "cIDEOGRAPH-2F894cIDEOGRAPH-2F895cIDEOGRAPH-2F896cIDEOGRAPH-2F897cIDEOGRAPH-2F898",
      "cIDEOGRAPH-2F899cIDEOGRAPH-2F89AcIDEOGRAPH-2F89BcIDEOGRAPH-2F89CcIDEOGRAPH-2F89D",
      "cIDEOGRAPH-2F89EcIDEOGRAPH-2F89FcIDEOGRAPH-2F8A0cIDEOGRAPH-2F8A1cIDEOGRAPH-2F8A2",
      "cIDEOGRAPH-2F8A3cIDEOGRAPH-2F8A4cIDEOGRAPH-2F8A5cIDEOGRAPH-2F8A6cIDEOGRAPH-2F8A7",
      "cIDEOGRAPH-2F8A8cIDEOGRAPH-2F8A9cIDEOGRAPH-2F8AAcIDEOGRAPH-2F8ABcIDEOGRAPH-2F8AC",
      "cIDEOGRAPH-2F8ADcIDEOGRAPH-2F8AEcIDEOGRAPH-2F8AFcIDEOGRAPH-2F8B0cIDEOGRAPH-2F8B1",
      "cIDEOGRAPH-2F8B2cIDEOGRAPH-2F8B3cIDEOGRAPH-2F8B4cIDEOGRAPH-2F8B5cIDEOGRAPH-2F8B6",
      "cIDEOGRAPH-2F8B7cIDEOGRAPH-2F8B8cIDEOGRAPH-2F8B9cIDEOGRAPH-2F8BAcIDEOGRAPH-2F8BB",
      "cIDEOGRAPH-2F8BCcIDEOGRAPH-2F8BDcIDEOGRAPH-2F8BEcIDEOGRAPH-2F8BFcIDEOGRAPH-2F8C0",
      "cIDEOGRAPH-2F8C1cIDEOGRAPH-2F8C2cIDEOGRAPH-2F8C3cIDEOGRAPH-2F8C4cIDEOGRAPH-2F8C5",
      "cIDEOGRAPH-2F8C6cIDEOGRAPH-2F8C7cIDEOGRAPH-2F8C8cIDEOGRAPH-2F8C9cIDEOGRAPH-2F8CA",
      "cIDEOGRAPH-2F8CBcIDEOGRAPH-2F8CCcIDEOGRAPH-2F8CDcIDEOGRAPH-2F8CEcIDEOGRAPH-2F8CF",
      "cIDEOGRAPH-2F8D0cIDEOGRAPH-2F8D1cIDEOGRAPH-2F8D2cIDEOGRAPH-2F8D3cIDEOGRAPH-2F8D4",
      "cIDEOGRAPH-2F8D5cIDEOGRAPH-2F8D6cIDEOGRAPH-2F8D7cIDEOGRAPH-2F8D8cIDEOGRAPH-2F8D9",
      "cIDEOGRAPH-2F8DAcIDEOGRAPH-2F8DBcIDEOGRAPH-2F8DCcIDEOGRAPH-2F8DDcIDEOGRAPH-2F8DE",
      "cIDEOGRAPH-2F8DFcIDEOGRAPH-2F8E0cIDEOGRAPH-2F8E1cIDEOGRAPH-2F8E2cIDEOGRAPH-2F8E3",
      "cIDEOGRAPH-2F8E4cIDEOGRAPH-2F8E5cIDEOGRAPH-2F8E6cIDEOGRAPH-2F8E7cIDEOGRAPH-2F8E8",
      "cIDEOGRAPH-2F8E9cIDEOGRAPH-2F8EAcIDEOGRAPH-2F8EBcIDEOGRAPH-2F8ECcIDEOGRAPH-2F8ED",
      "cIDEOGRAPH-2F8EEcIDEOGRAPH-2F8EFcIDEOGRAPH-2F8F0cIDEOGRAPH-2F8F1cIDEOGRAPH-2F8F2",
      "cIDEOGRAPH-2F8F3cIDEOGRAPH-2F8F4cIDEOGRAPH-2F8F5cIDEOGRAPH-2F8F6cIDEOGRAPH-2F8F7",
      "cIDEOGRAPH-2F8F8cIDEOGRAPH-2F8F9cIDEOGRAPH-2F8FAcIDEOGRAPH-2F8FBcIDEOGRAPH-2F8FC",
      "cIDEOGRAPH-2F8FDcIDEOGRAPH-2F8FEcIDEOGRAPH-2F8FFcIDEOGRAPH-2F900cIDEOGRAPH-2F901",
      "cIDEOGRAPH-2F902cIDEOGRAPH-2F903cIDEOGRAPH-2F904cIDEOGRAPH-2F905cIDEOGRAPH-2F906",
      "cIDEOGRAPH-2F907cIDEOGRAPH-2F908cIDEOGRAPH-2F909cIDEOGRAPH-2F90AcIDEOGRAPH-2F90B",
      "cIDEOGRAPH-2F90CcIDEOGRAPH-2F90DcIDEOGRAPH-2F90EcIDEOGRAPH-2F90FcIDEOGRAPH-2F910",
      "cIDEOGRAPH-2F911cIDEOGRAPH-2F912cIDEOGRAPH-2F913cIDEOGRAPH-2F914cIDEOGRAPH-2F915",
      "cIDEOGRAPH-2F916cIDEOGRAPH-2F917cIDEOGRAPH-2F918cIDEOGRAPH-2F919cIDEOGRAPH-2F91A",
      "cIDEOGRAPH-2F91BcIDEOGRAPH-2F91CcIDEOGRAPH-2F91DcIDEOGRAPH-2F91EcIDEOGRAPH-2F91F",
      "cIDEOGRAPH-2F920cIDEOGRAPH-2F921cIDEOGRAPH-2F922cIDEOGRAPH-2F923cIDEOGRAPH-2F924",
      "cIDEOGRAPH-2F925cIDEOGRAPH-2F926cIDEOGRAPH-2F927cIDEOGRAPH-2F928cIDEOGRAPH-2F929",
      "cIDEOGRAPH-2F92AcIDEOGRAPH-2F92BcIDEOGRAPH-2F92CcIDEOGRAPH-2F92DcIDEOGRAPH-2F92E",
      "cIDEOGRAPH-2F92FcIDEOGRAPH-2F930cIDEOGRAPH-2F931cIDEOGRAPH-2F932cIDEOGRAPH-2F933",
      "cIDEOGRAPH-2F934cIDEOGRAPH-2F935cIDEOGRAPH-2F936cIDEOGRAPH-2F937cIDEOGRAPH-2F938",
      "cIDEOGRAPH-2F939cIDEOGRAPH-2F93AcIDEOGRAPH-2F93BcIDEOGRAPH-2F93CcIDEOGRAPH-2F93D",
      "cIDEOGRAPH-2F93EcIDEOGRAPH-2F93FcIDEOGRAPH-2F940cIDEOGRAPH-2F941cIDEOGRAPH-2F942",
      "cIDEOGRAPH-2F943cIDEOGRAPH-2F944cIDEOGRAPH-2F945cIDEOGRAPH-2F946cIDEOGRAPH-2F947",
      "cIDEOGRAPH-2F948cIDEOGRAPH-2F949cIDEOGRAPH-2F94AcIDEOGRAPH-2F94BcIDEOGRAPH-2F94C",
      "cIDEOGRAPH-2F94DcIDEOGRAPH-2F94EcIDEOGRAPH-2F94FcIDEOGRAPH-2F950cIDEOGRAPH-2F951",
      "cIDEOGRAPH-2F952cIDEOGRAPH-2F953cIDEOGRAPH-2F954cIDEOGRAPH-2F955cIDEOGRAPH-2F956",
      "cIDEOGRAPH-2F957cIDEOGRAPH-2F958cIDEOGRAPH-2F959cIDEOGRAPH-2F95AcIDEOGRAPH-2F95B",
      "cIDEOGRAPH-2F95CcIDEOGRAPH-2F95DcIDEOGRAPH-2F95EcIDEOGRAPH-2F95FcIDEOGRAPH-2F960",
      "cIDEOGRAPH-2F961cIDEOGRAPH-2F962cIDEOGRAPH-2F963cIDEOGRAPH-2F964cIDEOGRAPH-2F965",
      "cIDEOGRAPH-2F966cIDEOGRAPH-2F967cIDEOGRAPH-2F968cIDEOGRAPH-2F969cIDEOGRAPH-2F96A",
      "cIDEOGRAPH-2F96BcIDEOGRAPH-2F96CcIDEOGRAPH-2F96DcIDEOGRAPH-2F96EcIDEOGRAPH-2F96F",
      "cIDEOGRAPH-2F970cIDEOGRAPH-2F971cIDEOGRAPH-2F972cIDEOGRAPH-2F973cIDEOGRAPH-2F974",
      "cIDEOGRAPH-2F975cIDEOGRAPH-2F976cIDEOGRAPH-2F977cIDEOGRAPH-2F978cIDEOGRAPH-2F979",
      "cIDEOGRAPH-2F97AcIDEOGRAPH-2F97BcIDEOGRAPH-2F97CcIDEOGRAPH-2F97DcIDEOGRAPH-2F97E",
      "cIDEOGRAPH-2F97FcIDEOGRAPH-2F980cIDEOGRAPH-2F981cIDEOGRAPH-2F982cIDEOGRAPH-2F983",
      "cIDEOGRAPH-2F984cIDEOGRAPH-2F985cIDEOGRAPH-2F986cIDEOGRAPH-2F987cIDEOGRAPH-2F988",
      "cIDEOGRAPH-2F989cIDEOGRAPH-2F98AcIDEOGRAPH-2F98BcIDEOGRAPH-2F98CcIDEOGRAPH-2F98D",
      "cIDEOGRAPH-2F98EcIDEOGRAPH-2F98FcIDEOGRAPH-2F990cIDEOGRAPH-2F991cIDEOGRAPH-2F992",
      "cIDEOGRAPH-2F993cIDEOGRAPH-2F994cIDEOGRAPH-2F995cIDEOGRAPH-2F996cIDEOGRAPH-2F997",
      "cIDEOGRAPH-2F998cIDEOGRAPH-2F999cIDEOGRAPH-2F99AcIDEOGRAPH-2F99BcIDEOGRAPH-2F99C",
      "cIDEOGRAPH-2F99DcIDEOGRAPH-2F99EcIDEOGRAPH-2F99FcIDEOGRAPH-2F9A0cIDEOGRAPH-2F9A1",
      "cIDEOGRAPH-2F9A2cIDEOGRAPH-2F9A3cIDEOGRAPH-2F9A4cIDEOGRAPH-2F9A5cIDEOGRAPH-2F9A6",
      "cIDEOGRAPH-2F9A7cIDEOGRAPH-2F9A8cIDEOGRAPH-2F9A9cIDEOGRAPH-2F9AAcIDEOGRAPH-2F9AB",
      "cIDEOGRAPH-2F9ACcIDEOGRAPH-2F9ADcIDEOGRAPH-2F9AEcIDEOGRAPH-2F9AFcIDEOGRAPH-2F9B0",
      "cIDEOGRAPH-2F9B1cIDEOGRAPH-2F9B2cIDEOGRAPH-2F9B3cIDEOGRAPH-2F9B4cIDEOGRAPH-2F9B5",
      "cIDEOGRAPH-2F9B6cIDEOGRAPH-2F9B7cIDEOGRAPH-2F9B8cIDEOGRAPH-2F9B9cIDEOGRAPH-2F9BA",
      "cIDEOGRAPH-2F9BBcIDEOGRAPH-2F9BCcIDEOGRAPH-2F9BDcIDEOGRAPH-2F9BEcIDEOGRAPH-2F9BF",
      "cIDEOGRAPH-2F9C0cIDEOGRAPH-2F9C1cIDEOGRAPH-2F9C2cIDEOGRAPH-2F9C3cIDEOGRAPH-2F9C4",
      "cIDEOGRAPH-2F9C5cIDEOGRAPH-2F9C6cIDEOGRAPH-2F9C7cIDEOGRAPH-2F9C8cIDEOGRAPH-2F9C9",
      "cIDEOGRAPH-2F9CAcIDEOGRAPH-2F9CBcIDEOGRAPH-2F9CCcIDEOGRAPH-2F9CDcIDEOGRAPH-2F9CE",
      "cIDEOGRAPH-2F9CFcIDEOGRAPH-2F9D0cIDEOGRAPH-2F9D1cIDEOGRAPH-2F9D2cIDEOGRAPH-2F9D3",
      "cIDEOGRAPH-2F9D4cIDEOGRAPH-2F9D5cIDEOGRAPH-2F9D6cIDEOGRAPH-2F9D7cIDEOGRAPH-2F9D8",
      "cIDEOGRAPH-2F9D9cIDEOGRAPH-2F9DAcIDEOGRAPH-2F9DBcIDEOGRAPH-2F9DCcIDEOGRAPH-2F9DD",
      "cIDEOGRAPH-2F9DEcIDEOGRAPH-2F9DFcIDEOGRAPH-2F9E0cIDEOGRAPH-2F9E1cIDEOGRAPH-2F9E2",
      "cIDEOGRAPH-2F9E3cIDEOGRAPH-2F9E4cIDEOGRAPH-2F9E5cIDEOGRAPH-2F9E6cIDEOGRAPH-2F9E7",
      "cIDEOGRAPH-2F9E8cIDEOGRAPH-2F9E9cIDEOGRAPH-2F9EAcIDEOGRAPH-2F9EBcIDEOGRAPH-2F9EC",
      "cIDEOGRAPH-2F9EDcIDEOGRAPH-2F9EEcIDEOGRAPH-2F9EFcIDEOGRAPH-2F9F0cIDEOGRAPH-2F9F1",
      "cIDEOGRAPH-2F9F2cIDEOGRAPH-2F9F3cIDEOGRAPH-2F9F4cIDEOGRAPH-2F9F5cIDEOGRAPH-2F9F6",
      "cIDEOGRAPH-2F9F7cIDEOGRAPH-2F9F8cIDEOGRAPH-2F9F9cIDEOGRAPH-2F9FAcIDEOGRAPH-2F9FB",
      "cIDEOGRAPH-2F9FCcIDEOGRAPH-2F9FDcIDEOGRAPH-2F9FEcIDEOGRAPH-2F9FFcIDEOGRAPH-2FA00",
      "cIDEOGRAPH-2FA01cIDEOGRAPH-2FA02cIDEOGRAPH-2FA03cIDEOGRAPH-2FA04cIDEOGRAPH-2FA05",
      "cIDEOGRAPH-2FA06cIDEOGRAPH-2FA07cIDEOGRAPH-2FA08cIDEOGRAPH-2FA09cIDEOGRAPH-2FA0A",
      "cIDEOGRAPH-2FA0BcIDEOGRAPH-2FA0CcIDEOGRAPH-2FA0DcIDEOGRAPH-2FA0EcIDEOGRAPH-2FA0F",
      "cIDEOGRAPH-2FA10cIDEOGRAPH-2FA11cIDEOGRAPH-2FA12cIDEOGRAPH-2FA13cIDEOGRAPH-2FA14",
      "cIDEOGRAPH-2FA15cIDEOGRAPH-2FA16cIDEOGRAPH-2FA17cIDEOGRAPH-2FA18cIDEOGRAPH-2FA19",
      "cIDEOGRAPH-2FA1AcIDEOGRAPH-2FA1BcIDEOGRAPH-2FA1CcIDEOGRAPH-2FA1D"]⟩,
    ⟨0xe0001, ["aLANGUAGE TAG"]⟩,
    ⟨0xe0020, ["aTAG SPACEbEXCLAMATION MARKbQUOTATION MARKbNUMBER SIGNbDOLLAR SIGNbPERCENT SIGN",
      "bAMPERSANDbAPOSTROPHEbLEFT PARENTHESISbRIGHT PARENTHESISbASTERISKbPLUS SIGNbCOMMA",
      "bHYPHEN-MINUSbFULL STOPbSOLIDUSbDIGIT ZEROcONEcTWOcTHREEcFOURcFIVEcSIXcSEVENcEIGHTcNINE",
      "bCOLONbSEMICOLONbLESS-THAN SIGNbEQUALS SIGNbGREATER-THAN SIGNbQUESTION MARK",
      "bCOMMERCIAL ATbLATIN CAPITAL LETTER AeBeCeDeEeFeGeHeIeJeKeLeMeNeOePeQeReSeTeUeVeWeXeYeZ",
      "bLEFT SQUARE BRACKETbREVERSE SOLIDUSbRIGHT SQUARE BRACKETbCIRCUMFLEX ACCENTbLOW LINE",
      "bGRAVE ACCENTbLATIN SMALL LETTER AeBeCeDeEeFeGeHeIeJeKeLeMeNeOePeQeReSeTeUeVeWeXeYeZ",
      "bLEFT CURLY BRACKETbVERTICAL LINEbRIGHT CURLY BRACKETbTILDEaCANCEL TAG"]⟩]

def namesFromE0100 : List NameRun :=
  [⟨0xe0100, ["aVARIATION SELECTOR-17bSELECTOR-18bSELECTOR-19bSELECTOR-20bSELECTOR-21",
      "bSELECTOR-22bSELECTOR-23bSELECTOR-24bSELECTOR-25bSELECTOR-26bSELECTOR-27bSELECTOR-28",
      "bSELECTOR-29bSELECTOR-30bSELECTOR-31bSELECTOR-32bSELECTOR-33bSELECTOR-34bSELECTOR-35",
      "bSELECTOR-36bSELECTOR-37bSELECTOR-38bSELECTOR-39bSELECTOR-40bSELECTOR-41bSELECTOR-42",
      "bSELECTOR-43bSELECTOR-44bSELECTOR-45bSELECTOR-46bSELECTOR-47bSELECTOR-48bSELECTOR-49",
      "bSELECTOR-50bSELECTOR-51bSELECTOR-52bSELECTOR-53bSELECTOR-54bSELECTOR-55bSELECTOR-56",
      "bSELECTOR-57bSELECTOR-58bSELECTOR-59bSELECTOR-60bSELECTOR-61bSELECTOR-62bSELECTOR-63",
      "bSELECTOR-64bSELECTOR-65bSELECTOR-66bSELECTOR-67bSELECTOR-68bSELECTOR-69bSELECTOR-70",
      "bSELECTOR-71bSELECTOR-72bSELECTOR-73bSELECTOR-74bSELECTOR-75bSELECTOR-76bSELECTOR-77",
      "bSELECTOR-78bSELECTOR-79bSELECTOR-80bSELECTOR-81bSELECTOR-82bSELECTOR-83bSELECTOR-84",
      "bSELECTOR-85bSELECTOR-86bSELECTOR-87bSELECTOR-88bSELECTOR-89bSELECTOR-90bSELECTOR-91",
      "bSELECTOR-92bSELECTOR-93bSELECTOR-94bSELECTOR-95bSELECTOR-96bSELECTOR-97bSELECTOR-98",
      "bSELECTOR-99bSELECTOR-100bSELECTOR-101bSELECTOR-102bSELECTOR-103bSELECTOR-104",
      "bSELECTOR-105bSELECTOR-106bSELECTOR-107bSELECTOR-108bSELECTOR-109bSELECTOR-110",
      "bSELECTOR-111bSELECTOR-112bSELECTOR-113bSELECTOR-114bSELECTOR-115bSELECTOR-116",
      "bSELECTOR-117bSELECTOR-118bSELECTOR-119bSELECTOR-120bSELECTOR-121bSELECTOR-122",
      "bSELECTOR-123bSELECTOR-124bSELECTOR-125bSELECTOR-126bSELECTOR-127bSELECTOR-128",
      "bSELECTOR-129bSELECTOR-130bSELECTOR-131bSELECTOR-132bSELECTOR-133bSELECTOR-134",
      "bSELECTOR-135bSELECTOR-136bSELECTOR-137bSELECTOR-138bSELECTOR-139bSELECTOR-140",
      "bSELECTOR-141bSELECTOR-142bSELECTOR-143bSELECTOR-144bSELECTOR-145bSELECTOR-146",
      "bSELECTOR-147bSELECTOR-148bSELECTOR-149bSELECTOR-150bSELECTOR-151bSELECTOR-152",
      "bSELECTOR-153bSELECTOR-154bSELECTOR-155bSELECTOR-156bSELECTOR-157bSELECTOR-158",
      "bSELECTOR-159bSELECTOR-160bSELECTOR-161bSELECTOR-162bSELECTOR-163bSELECTOR-164",
      "bSELECTOR-165bSELECTOR-166bSELECTOR-167bSELECTOR-168bSELECTOR-169bSELECTOR-170",
      "bSELECTOR-171bSELECTOR-172bSELECTOR-173bSELECTOR-174bSELECTOR-175bSELECTOR-176",
      "bSELECTOR-177bSELECTOR-178bSELECTOR-179bSELECTOR-180bSELECTOR-181bSELECTOR-182",
      "bSELECTOR-183bSELECTOR-184bSELECTOR-185bSELECTOR-186bSELECTOR-187bSELECTOR-188",
      "bSELECTOR-189bSELECTOR-190bSELECTOR-191bSELECTOR-192bSELECTOR-193bSELECTOR-194",
      "bSELECTOR-195bSELECTOR-196bSELECTOR-197bSELECTOR-198bSELECTOR-199bSELECTOR-200",
      "bSELECTOR-201bSELECTOR-202bSELECTOR-203bSELECTOR-204bSELECTOR-205bSELECTOR-206",
      "bSELECTOR-207bSELECTOR-208bSELECTOR-209bSELECTOR-210bSELECTOR-211bSELECTOR-212",
      "bSELECTOR-213bSELECTOR-214bSELECTOR-215bSELECTOR-216bSELECTOR-217bSELECTOR-218",
      "bSELECTOR-219bSELECTOR-220bSELECTOR-221bSELECTOR-222bSELECTOR-223bSELECTOR-224",
      "bSELECTOR-225bSELECTOR-226bSELECTOR-227bSELECTOR-228bSELECTOR-229bSELECTOR-230",
      "bSELECTOR-231bSELECTOR-232bSELECTOR-233bSELECTOR-234bSELECTOR-235bSELECTOR-236",
      "bSELECTOR-237bSELECTOR-238bSELECTOR-239bSELECTOR-240bSELECTOR-241bSELECTOR-242",
      "bSELECTOR-243bSELECTOR-244bSELECTOR-245bSELECTOR-246bSELECTOR-247bSELECTOR-248",
      "bSELECTOR-249bSELECTOR-250bSELECTOR-251bSELECTOR-252bSELECTOR-253bSELECTOR-254",
      "bSELECTOR-255bSELECTOR-256"]⟩]

def picturesNames : List NameRun :=
  namesFrom1CF00 ++ namesFrom1D200 ++ namesFrom1D7CE ++ namesFrom1DA9B ++ namesFrom1EE51 ++
    namesFrom1F300 ++ namesFrom1F6DD ++ namesFrom1F860 ++ namesFrom1FAB0 ++ namesFrom2F800 ++
    namesFromE0100

end ModuleGlue.Text
