import ModuleGlue.Text.NameTable.Basic

/-!
Contract: the names of the characters of living scripts.

Owns: the names, in runs of characters that follow each other.

Does not own: how the names are looked up.
-/

namespace ModuleGlue.Text

def namesFrom0020 : List NameRun :=
  [⟨0x0020, ["aSPACEaEXCLAMATION MARKaQUOTATION MARKaNUMBER SIGNaDOLLAR SIGNaPERCENT SIGN",
      "aAMPERSANDaAPOSTROPHEaLEFT PARENTHESISaRIGHT PARENTHESISaASTERISKaPLUS SIGNaCOMMA",
      "aHYPHEN-MINUSaFULL STOPaSOLIDUSaDIGIT ZERObONEbTWObTHREEbFOURbFIVEbSIXbSEVENbEIGHTbNINE",
      "aCOLONaSEMICOLONaLESS-THAN SIGNaEQUALS SIGNaGREATER-THAN SIGNaQUESTION MARK",
      "aCOMMERCIAL ATaLATIN CAPITAL LETTER AdBdCdDdEdFdGdHdIdJdKdLdMdNdOdPdQdRdSdTdUdVdWdXdYdZ",
      "aLEFT SQUARE BRACKETaREVERSE SOLIDUSaRIGHT SQUARE BRACKETaCIRCUMFLEX ACCENTaLOW LINE",
      "aGRAVE ACCENTaLATIN SMALL LETTER AdBdCdDdEdFdGdHdIdJdKdLdMdNdOdPdQdRdSdTdUdVdWdXdYdZ",
      "aLEFT CURLY BRACKETaVERTICAL LINEaRIGHT CURLY BRACKETaTILDE"]⟩]

def namesFrom00A0 : List NameRun :=
  [⟨0x00a0, ["aNO-BREAK SPACEaINVERTED EXCLAMATION MARKaCENT SIGNaPOUND SIGNaCURRENCY SIGN",
      "aYEN SIGNaBROKEN BARaSECTION SIGNaDIAERESISaCOPYRIGHT SIGNaFEMININE ORDINAL INDICATOR",
      "aLEFT-POINTING DOUBLE ANGLE QUOTATION MARKaNOT SIGNaSOFT HYPHENaREGISTERED SIGNaMACRON",
      "aDEGREE SIGNaPLUS-MINUS SIGNaSUPERSCRIPT TWObTHREEaACUTE ACCENTaMICRO SIGNaPILCROW SIGN",
      "aMIDDLE DOTaCEDILLAaSUPERSCRIPT ONEaMASCULINE ORDINAL INDICATOR",
      "aRIGHT-POINTING DOUBLE ANGLE QUOTATION MARKaVULGAR FRACTION ONE QUARTERdHALF",
      "cTHREE QUARTERSaINVERTED QUESTION MARKaLATIN CAPITAL LETTER A WITH GRAVEfACUTE",
      "fCIRCUMFLEXfTILDEfDIAERESISfRING ABOVEdAEdC WITH CEDILLAdE WITH GRAVEfACUTEfCIRCUMFLEX",
      "fDIAERESISdI WITH GRAVEfACUTEfCIRCUMFLEXfDIAERESISdETHdN WITH TILDEdO WITH GRAVEfACUTE",
      "fCIRCUMFLEXfTILDEfDIAERESISaMULTIPLICATION SIGNaLATIN CAPITAL LETTER O WITH STROKE",
      "dU WITH GRAVEfACUTEfCIRCUMFLEXfDIAERESISdY WITH ACUTEdTHORNbSMALL LETTER SHARP S",
      "dA WITH GRAVEfACUTEfCIRCUMFLEXfTILDEfDIAERESISfRING ABOVEdAEdC WITH CEDILLA",
      "dE WITH GRAVEfACUTEfCIRCUMFLEXfDIAERESISdI WITH GRAVEfACUTEfCIRCUMFLEXfDIAERESISdETH",
      "dN WITH TILDEdO WITH GRAVEfACUTEfCIRCUMFLEXfTILDEfDIAERESISaDIVISION SIGN",
      "aLATIN SMALL LETTER O WITH STROKEdU WITH GRAVEfACUTEfCIRCUMFLEXfDIAERESISdY WITH ACUTE",
      "dTHORNdY WITH DIAERESISbCAPITAL LETTER A WITH MACRONbSMALL LETTER A WITH MACRON",
      "bCAPITAL LETTER A WITH BREVEbSMALL LETTER A WITH BREVEbCAPITAL LETTER A WITH OGONEK",
      "bSMALL LETTER A WITH OGONEKbCAPITAL LETTER C WITH ACUTEbSMALL LETTER C WITH ACUTE",
      "bCAPITAL LETTER C WITH CIRCUMFLEXbSMALL LETTER C WITH CIRCUMFLEX",
      "bCAPITAL LETTER C WITH DOT ABOVEbSMALL LETTER C WITH DOT ABOVE",
      "bCAPITAL LETTER C WITH CARONbSMALL LETTER C WITH CARONbCAPITAL LETTER D WITH CARON",
      "bSMALL LETTER D WITH CARONbCAPITAL LETTER D WITH STROKEbSMALL LETTER D WITH STROKE",
      "bCAPITAL LETTER E WITH MACRONbSMALL LETTER E WITH MACRONbCAPITAL LETTER E WITH BREVE",
      "bSMALL LETTER E WITH BREVEbCAPITAL LETTER E WITH DOT ABOVE",
      "bSMALL LETTER E WITH DOT ABOVEbCAPITAL LETTER E WITH OGONEKbSMALL LETTER E WITH OGONEK",
      "bCAPITAL LETTER E WITH CARONbSMALL LETTER E WITH CARONbCAPITAL LETTER G WITH CIRCUMFLEX",
      "bSMALL LETTER G WITH CIRCUMFLEXbCAPITAL LETTER G WITH BREVEbSMALL LETTER G WITH BREVE",
      "bCAPITAL LETTER G WITH DOT ABOVEbSMALL LETTER G WITH DOT ABOVE",
      "bCAPITAL LETTER G WITH CEDILLAbSMALL LETTER G WITH CEDILLA",
      "bCAPITAL LETTER H WITH CIRCUMFLEXbSMALL LETTER H WITH CIRCUMFLEX",
      "bCAPITAL LETTER H WITH STROKEbSMALL LETTER H WITH STROKEbCAPITAL LETTER I WITH TILDE",
      "bSMALL LETTER I WITH TILDEbCAPITAL LETTER I WITH MACRONbSMALL LETTER I WITH MACRON",
      "bCAPITAL LETTER I WITH BREVEbSMALL LETTER I WITH BREVEbCAPITAL LETTER I WITH OGONEK",
      "bSMALL LETTER I WITH OGONEKbCAPITAL LETTER I WITH DOT ABOVEbSMALL LETTER DOTLESS I",
      "bCAPITAL LIGATURE IJbSMALL LIGATURE IJbCAPITAL LETTER J WITH CIRCUMFLEX",
      "bSMALL LETTER J WITH CIRCUMFLEXbCAPITAL LETTER K WITH CEDILLA",
      "bSMALL LETTER K WITH CEDILLAdKRAbCAPITAL LETTER L WITH ACUTEbSMALL LETTER L WITH ACUTE",
      "bCAPITAL LETTER L WITH CEDILLAbSMALL LETTER L WITH CEDILLAbCAPITAL LETTER L WITH CARON",
      "bSMALL LETTER L WITH CARONbCAPITAL LETTER L WITH MIDDLE DOT",
      "bSMALL LETTER L WITH MIDDLE DOTbCAPITAL LETTER L WITH STROKEbSMALL LETTER L WITH STROKE",
      "bCAPITAL LETTER N WITH ACUTEbSMALL LETTER N WITH ACUTEbCAPITAL LETTER N WITH CEDILLA",
      "bSMALL LETTER N WITH CEDILLAbCAPITAL LETTER N WITH CARONbSMALL LETTER N WITH CARON",
      "ePRECEDED BY APOSTROPHEbCAPITAL LETTER ENGbSMALL LETTER ENG",
      "bCAPITAL LETTER O WITH MACRONbSMALL LETTER O WITH MACRONbCAPITAL LETTER O WITH BREVE",
      "bSMALL LETTER O WITH BREVEbCAPITAL LETTER O WITH DOUBLE ACUTE",
      "bSMALL LETTER O WITH DOUBLE ACUTEbCAPITAL LIGATURE OEbSMALL LIGATURE OE",
      "bCAPITAL LETTER R WITH ACUTEbSMALL LETTER R WITH ACUTEbCAPITAL LETTER R WITH CEDILLA",
      "bSMALL LETTER R WITH CEDILLAbCAPITAL LETTER R WITH CARONbSMALL LETTER R WITH CARON",
      "bCAPITAL LETTER S WITH ACUTEbSMALL LETTER S WITH ACUTEbCAPITAL LETTER S WITH CIRCUMFLEX",
      "bSMALL LETTER S WITH CIRCUMFLEXbCAPITAL LETTER S WITH CEDILLA",
      "bSMALL LETTER S WITH CEDILLAbCAPITAL LETTER S WITH CARONbSMALL LETTER S WITH CARON",
      "bCAPITAL LETTER T WITH CEDILLAbSMALL LETTER T WITH CEDILLAbCAPITAL LETTER T WITH CARON",
      "bSMALL LETTER T WITH CARONbCAPITAL LETTER T WITH STROKEbSMALL LETTER T WITH STROKE",
      "bCAPITAL LETTER U WITH TILDEbSMALL LETTER U WITH TILDEbCAPITAL LETTER U WITH MACRON",
      "bSMALL LETTER U WITH MACRONbCAPITAL LETTER U WITH BREVEbSMALL LETTER U WITH BREVE",
      "bCAPITAL LETTER U WITH RING ABOVEbSMALL LETTER U WITH RING ABOVE",
      "bCAPITAL LETTER U WITH DOUBLE ACUTEbSMALL LETTER U WITH DOUBLE ACUTE",
      "bCAPITAL LETTER U WITH OGONEKbSMALL LETTER U WITH OGONEK",
      "bCAPITAL LETTER W WITH CIRCUMFLEXbSMALL LETTER W WITH CIRCUMFLEX",
      "bCAPITAL LETTER Y WITH CIRCUMFLEXbSMALL LETTER Y WITH CIRCUMFLEX",
      "bCAPITAL LETTER Y WITH DIAERESISdZ WITH ACUTEbSMALL LETTER Z WITH ACUTE",
      "bCAPITAL LETTER Z WITH DOT ABOVEbSMALL LETTER Z WITH DOT ABOVE",
      "bCAPITAL LETTER Z WITH CARONbSMALL LETTER Z WITH CARONdLONG SdB WITH STROKE",
      "bCAPITAL LETTER B WITH HOOKfTOPBARbSMALL LETTER B WITH TOPBARbCAPITAL LETTER TONE SIX",
      "bSMALL LETTER TONE SIXbCAPITAL LETTER OPEN OdC WITH HOOKbSMALL LETTER C WITH HOOK",
      "bCAPITAL LETTER AFRICAN DdD WITH HOOKfTOPBARbSMALL LETTER D WITH TOPBARdTURNED DELTA",
      "bCAPITAL LETTER REVERSED EdSCHWAdOPEN EdF WITH HOOKbSMALL LETTER F WITH HOOK",
      "bCAPITAL LETTER G WITH HOOKdGAMMAbSMALL LETTER HVbCAPITAL LETTER IOTAdI WITH STROKE",
      "dK WITH HOOKbSMALL LETTER K WITH HOOKdL WITH BARdLAMBDA WITH STROKE",
      "bCAPITAL LETTER TURNED MdN WITH LEFT HOOKbSMALL LETTER N WITH LONG RIGHT LEG",
      "bCAPITAL LETTER O WITH MIDDLE TILDEfHORNbSMALL LETTER O WITH HORNbCAPITAL LETTER OI",
      "bSMALL LETTER OIbCAPITAL LETTER P WITH HOOKbSMALL LETTER P WITH HOOKbLETTER YR",
      "bCAPITAL LETTER TONE TWObSMALL LETTER TONE TWObCAPITAL LETTER ESH",
      "bLETTER REVERSED ESH LOOPbSMALL LETTER T WITH PALATAL HOOKbCAPITAL LETTER T WITH HOOK",
      "bSMALL LETTER T WITH HOOKbCAPITAL LETTER T WITH RETROFLEX HOOKdU WITH HORN",
      "bSMALL LETTER U WITH HORNbCAPITAL LETTER UPSILONdV WITH HOOKdY WITH HOOK",
      "bSMALL LETTER Y WITH HOOKbCAPITAL LETTER Z WITH STROKEbSMALL LETTER Z WITH STROKE",
      "bCAPITAL LETTER EZHeREVERSEDbSMALL LETTER EZH REVERSEDeWITH TAILbLETTER TWO WITH STROKE",
      "bCAPITAL LETTER TONE FIVEbSMALL LETTER TONE FIVE",
      "bLETTER INVERTED GLOTTAL STOP WITH STROKEcWYNNcDENTAL CLICKcLATERAL CLICK",
      "cALVEOLAR CLICKcRETROFLEX CLICKbCAPITAL LETTER DZ WITH CARON",
      "dD WITH SMALL LETTER Z WITH CARONbSMALL LETTER DZ WITH CARONbCAPITAL LETTER LJ",
      "dL WITH SMALL LETTER JbSMALL LETTER LJbCAPITAL LETTER NJdN WITH SMALL LETTER J",
      "bSMALL LETTER NJbCAPITAL LETTER A WITH CARONbSMALL LETTER A WITH CARON",
      "bCAPITAL LETTER I WITH CARONbSMALL LETTER I WITH CARONbCAPITAL LETTER O WITH CARON",
      "bSMALL LETTER O WITH CARONbCAPITAL LETTER U WITH CARONbSMALL LETTER U WITH CARON",
      "bCAPITAL LETTER U WITH DIAERESIS AND MACRONbSMALL LETTER U WITH DIAERESIS AND MACRON",
      "bCAPITAL LETTER U WITH DIAERESIS AND ACUTEbSMALL LETTER U WITH DIAERESIS AND ACUTE",
      "bCAPITAL LETTER U WITH DIAERESIS AND CARONbSMALL LETTER U WITH DIAERESIS AND CARON",
      "bCAPITAL LETTER U WITH DIAERESIS AND GRAVEbSMALL LETTER U WITH DIAERESIS AND GRAVE",
      "dTURNED EbCAPITAL LETTER A WITH DIAERESIS AND MACRON",
      "bSMALL LETTER A WITH DIAERESIS AND MACRONbCAPITAL LETTER A WITH DOT ABOVE AND MACRON",
      "bSMALL LETTER A WITH DOT ABOVE AND MACRONbCAPITAL LETTER AE WITH MACRON",
      "bSMALL LETTER AE WITH MACRONbCAPITAL LETTER G WITH STROKEbSMALL LETTER G WITH STROKE",
      "bCAPITAL LETTER G WITH CARONbSMALL LETTER G WITH CARONbCAPITAL LETTER K WITH CARON",
      "bSMALL LETTER K WITH CARONbCAPITAL LETTER O WITH OGONEKbSMALL LETTER O WITH OGONEK",
      "bCAPITAL LETTER O WITH OGONEK AND MACRONbSMALL LETTER O WITH OGONEK AND MACRON",
      "bCAPITAL LETTER EZH WITH CARONbSMALL LETTER EZH WITH CARONdJ WITH CARON",
      "bCAPITAL LETTER DZdD WITH SMALL LETTER ZbSMALL LETTER DZbCAPITAL LETTER G WITH ACUTE",
      "bSMALL LETTER G WITH ACUTEbCAPITAL LETTER HWAIRdWYNNdN WITH GRAVE",
      "bSMALL LETTER N WITH GRAVEbCAPITAL LETTER A WITH RING ABOVE AND ACUTE",
      "bSMALL LETTER A WITH RING ABOVE AND ACUTEbCAPITAL LETTER AE WITH ACUTE",
      "bSMALL LETTER AE WITH ACUTEbCAPITAL LETTER O WITH STROKE AND ACUTE",
      "bSMALL LETTER O WITH STROKE AND ACUTEbCAPITAL LETTER A WITH DOUBLE GRAVE",
      "bSMALL LETTER A WITH DOUBLE GRAVEbCAPITAL LETTER A WITH INVERTED BREVE",
      "bSMALL LETTER A WITH INVERTED BREVEbCAPITAL LETTER E WITH DOUBLE GRAVE",
      "bSMALL LETTER E WITH DOUBLE GRAVEbCAPITAL LETTER E WITH INVERTED BREVE",
      "bSMALL LETTER E WITH INVERTED BREVEbCAPITAL LETTER I WITH DOUBLE GRAVE",
      "bSMALL LETTER I WITH DOUBLE GRAVEbCAPITAL LETTER I WITH INVERTED BREVE",
      "bSMALL LETTER I WITH INVERTED BREVEbCAPITAL LETTER O WITH DOUBLE GRAVE",
      "bSMALL LETTER O WITH DOUBLE GRAVEbCAPITAL LETTER O WITH INVERTED BREVE",
      "bSMALL LETTER O WITH INVERTED BREVEbCAPITAL LETTER R WITH DOUBLE GRAVE",
      "bSMALL LETTER R WITH DOUBLE GRAVEbCAPITAL LETTER R WITH INVERTED BREVE",
      "bSMALL LETTER R WITH INVERTED BREVEbCAPITAL LETTER U WITH DOUBLE GRAVE",
      "bSMALL LETTER U WITH DOUBLE GRAVEbCAPITAL LETTER U WITH INVERTED BREVE",
      "bSMALL LETTER U WITH INVERTED BREVEbCAPITAL LETTER S WITH COMMA BELOW",
      "bSMALL LETTER S WITH COMMA BELOWbCAPITAL LETTER T WITH COMMA BELOW",
      "bSMALL LETTER T WITH COMMA BELOWbCAPITAL LETTER YOGHbSMALL LETTER YOGH",
      "bCAPITAL LETTER H WITH CARONbSMALL LETTER H WITH CARON",
      "bCAPITAL LETTER N WITH LONG RIGHT LEGbSMALL LETTER D WITH CURLbCAPITAL LETTER OU",
      "bSMALL LETTER OUbCAPITAL LETTER Z WITH HOOKbSMALL LETTER Z WITH HOOK",
      "bCAPITAL LETTER A WITH DOT ABOVEbSMALL LETTER A WITH DOT ABOVE",
      "bCAPITAL LETTER E WITH CEDILLAbSMALL LETTER E WITH CEDILLA",
      "bCAPITAL LETTER O WITH DIAERESIS AND MACRONbSMALL LETTER O WITH DIAERESIS AND MACRON",
      "bCAPITAL LETTER O WITH TILDE AND MACRONbSMALL LETTER O WITH TILDE AND MACRON",
      "bCAPITAL LETTER O WITH DOT ABOVEbSMALL LETTER O WITH DOT ABOVE",
      "bCAPITAL LETTER O WITH DOT ABOVE AND MACRONbSMALL LETTER O WITH DOT ABOVE AND MACRON",
      "bCAPITAL LETTER Y WITH MACRONbSMALL LETTER Y WITH MACRONdL WITH CURLdN WITH CURL",
      "dT WITH CURLdDOTLESS JdDB DIGRAPHdQP DIGRAPHbCAPITAL LETTER A WITH STROKEdC WITH STROKE",
      "bSMALL LETTER C WITH STROKEbCAPITAL LETTER L WITH BARdT WITH DIAGONAL STROKE",
      "bSMALL LETTER S WITH SWASH TAILdZ WITH SWASH TAILbCAPITAL LETTER GLOTTAL STOP",
      "bSMALL LETTER GLOTTAL STOPbCAPITAL LETTER B WITH STROKEdU BARdTURNED VdE WITH STROKE",
      "bSMALL LETTER E WITH STROKEbCAPITAL LETTER J WITH STROKEbSMALL LETTER J WITH STROKE",
      "bCAPITAL LETTER SMALL Q WITH HOOK TAILbSMALL LETTER Q WITH HOOK TAIL",
      "bCAPITAL LETTER R WITH STROKEbSMALL LETTER R WITH STROKEbCAPITAL LETTER Y WITH STROKE",
      "bSMALL LETTER Y WITH STROKEdTURNED AdALPHAdTURNED ALPHAdB WITH HOOKdOPEN OdC WITH CURL",
      "dD WITH TAILfHOOKdREVERSED EdSCHWAeWITH HOOKdOPEN EdREVERSED OPEN EgWITH HOOK",
      "dCLOSED REVERSED OPEN EdDOTLESS J WITH STROKEdG WITH HOOKdSCRIPT G",
      "bLETTER SMALL CAPITAL GbSMALL LETTER GAMMAdRAMS HORNdTURNED HdH WITH HOOK",
      "dHENG WITH HOOKdI WITH STROKEdIOTAbLETTER SMALL CAPITAL I",
      "bSMALL LETTER L WITH MIDDLE TILDEfBELTfRETROFLEX HOOKdLEZHdTURNED MfWITH LONG LEG",
      "dM WITH HOOKdN WITH LEFT HOOKfRETROFLEX HOOKbLETTER SMALL CAPITAL N",
      "bSMALL LETTER BARRED ObLETTER SMALL CAPITAL OEbSMALL LETTER CLOSED OMEGAdPHIdTURNED R",
      "fWITH LONG LEGgHOOKdR WITH LONG LEGfTAILfFISHHOOKdREVERSED R WITH FISHHOOK",
      "bLETTER SMALL CAPITAL ReINVERTED RbSMALL LETTER S WITH HOOKdESH",
      "dDOTLESS J WITH STROKE AND HOOKdSQUAT REVERSED ESHdESH WITH CURLdTURNED T",
      "dT WITH RETROFLEX HOOKdU BARdUPSILONdV WITH HOOKdTURNED VeWeYbLETTER SMALL CAPITAL Y",
      "bSMALL LETTER Z WITH RETROFLEX HOOKfCURLdEZHeWITH CURLbLETTER GLOTTAL STOP",
      "cPHARYNGEAL VOICED FRICATIVEcINVERTED GLOTTAL STOPcSTRETCHED CcBILABIAL CLICK",
      "cSMALL CAPITAL BbSMALL LETTER CLOSED OPEN EbLETTER SMALL CAPITAL G WITH HOOKeH",
      "bSMALL LETTER J WITH CROSSED-TAILdTURNED KbLETTER SMALL CAPITAL L",
      "bSMALL LETTER Q WITH HOOKbLETTER GLOTTAL STOP WITH STROKE",
      "cREVERSED GLOTTAL STOP WITH STROKEbSMALL LETTER DZ DIGRAPHdDEZH DIGRAPH",
      "dDZ DIGRAPH WITH CURLdTS DIGRAPHdTESH DIGRAPHdTC DIGRAPH WITH CURLdFENG DIGRAPH",
      "dLS DIGRAPHdLZ DIGRAPHbLETTER BILABIAL PERCUSSIVEcBIDENTAL PERCUSSIVE",
      "bSMALL LETTER TURNED H WITH FISHHOOKhAND TAILaMODIFIER LETTER SMALL HeWITH HOOKdJdR",
      "dTURNED RfWITH HOOKdCAPITAL INVERTED RdWdYcPRIMEcDOUBLE PRIMEcTURNED COMMAcAPOSTROPHE",
      "cREVERSED COMMAcRIGHT HALF RINGcLEFT HALF RINGcGLOTTAL STOPcREVERSED GLOTTAL STOP",
      "cLEFT ARROWHEADcRIGHT ARROWHEADcUP ARROWHEADcDOWN ARROWHEADcCIRCUMFLEX ACCENTaCARON",
      "aMODIFIER LETTER VERTICAL LINEcMACRONcACUTE ACCENTcGRAVE ACCENTcLOW VERTICAL LINE",
      "dMACRONdGRAVE ACCENTdACUTE ACCENTcTRIANGULAR COLONcHALF TRIANGULAR COLON",
      "cCENTRED RIGHT HALF RINGdLEFT HALF RINGcUP TACKcDOWN TACKcPLUS SIGNcMINUS SIGNaBREVE",
      "aDOT ABOVEaRING ABOVEaOGONEKaSMALL TILDEaDOUBLE ACUTE ACCENT",
      "aMODIFIER LETTER RHOTIC HOOKcCROSS ACCENTcSMALL GAMMAdLdSdXdREVERSED GLOTTAL STOP",
      "cEXTRA-HIGH TONE BARcHIGH TONE BARcMID TONE BARcLOW TONE BARcEXTRA-LOW TONE BAR",
      "cYIN DEPARTING TONE MARKcYANG DEPARTING TONE MARKcVOICINGcUNASPIRATEDcDOUBLE APOSTROPHE",
      "cLOW DOWN ARROWHEADdUP ARROWHEADdLEFT ARROWHEADdRIGHT ARROWHEADdRING",
      "cMIDDLE GRAVE ACCENTdDOUBLE GRAVE ACCENTeACUTE ACCENTcLOW TILDEcRAISED COLON",
      "cBEGIN HIGH TONEcEND HIGH TONEcBEGIN LOW TONEcEND LOW TONEcSHELFcOPEN SHELF",
      "cLOW LEFT ARROWaCOMBINING GRAVE ACCENTbACUTE ACCENTbCIRCUMFLEX ACCENTbTILDEbMACRON",
      "bOVERLINEbBREVEbDOT ABOVEbDIAERESISbHOOK ABOVEbRING ABOVEbDOUBLE ACUTE ACCENTbCARON",
      "bVERTICAL LINE ABOVEbDOUBLE VERTICAL LINE ABOVEcGRAVE ACCENTbCANDRABINDUbINVERTED BREVE",
      "bTURNED COMMA ABOVEbCOMMA ABOVEbREVERSED COMMA ABOVEbCOMMA ABOVE RIGHT",
      "bGRAVE ACCENT BELOWbACUTE ACCENT BELOWbLEFT TACK BELOWbRIGHT TACK BELOW",
      "bLEFT ANGLE ABOVEbHORNbLEFT HALF RING BELOWbUP TACK BELOWbDOWN TACK BELOW",
      "bPLUS SIGN BELOWbMINUS SIGN BELOWbPALATALIZED HOOK BELOWbRETROFLEX HOOK BELOWbDOT BELOW",
      "bDIAERESIS BELOWbRING BELOWbCOMMA BELOWbCEDILLAbOGONEKbVERTICAL LINE BELOWbBRIDGE BELOW",
      "bINVERTED DOUBLE ARCH BELOWbCARON BELOWbCIRCUMFLEX ACCENT BELOWbBREVE BELOW",
      "bINVERTED BREVE BELOWbTILDE BELOWbMACRON BELOWbLOW LINEbDOUBLE LOW LINEbTILDE OVERLAY",
      "bSHORT STROKE OVERLAYbLONG STROKE OVERLAYbSHORT SOLIDUS OVERLAYbLONG SOLIDUS OVERLAY",
      "bRIGHT HALF RING BELOWbINVERTED BRIDGE BELOWbSQUARE BELOWbSEAGULL BELOWbX ABOVE",
      "bVERTICAL TILDEbDOUBLE OVERLINEbGRAVE TONE MARKbACUTE TONE MARKbGREEK PERISPOMENI",
      "cKORONIScDIALYTIKA TONOScYPOGEGRAMMENIbBRIDGE ABOVEbEQUALS SIGN BELOW",
      "bDOUBLE VERTICAL LINE BELOWbLEFT ANGLE BELOWbNOT TILDE ABOVEbHOMOTHETIC ABOVE",
      "bALMOST EQUAL TO ABOVEbLEFT RIGHT ARROW BELOWbUPWARDS ARROW BELOWbGRAPHEME JOINER",
      "bRIGHT ARROWHEAD ABOVEbLEFT HALF RING ABOVEbFERMATAbX BELOWbLEFT ARROWHEAD BELOW",
      "bRIGHT ARROWHEAD BELOWdAND UP ARROWHEAD BELOWcHALF RING ABOVEbDOT ABOVE RIGHT",
      "bASTERISK BELOWbDOUBLE RING BELOWbZIGZAG ABOVEbDOUBLE BREVE BELOWcBREVEcMACRONdBELOW",
      "cTILDEcINVERTED BREVEcRIGHTWARDS ARROW BELOWbLATIN SMALL LETTER AeEeIeOeUeCeDeHeMeReTeV",
      "eXaGREEK CAPITAL LETTER HETAbSMALL LETTER HETAbCAPITAL LETTER ARCHAIC SAMPI",
      "bSMALL LETTER ARCHAIC SAMPIbNUMERAL SIGNbLOWER NUMERAL SIGN",
      "bCAPITAL LETTER PAMPHYLIAN DIGAMMAbSMALL LETTER PAMPHYLIAN DIGAMMA"]⟩]

def namesFrom037A : List NameRun :=
  [⟨0x037a, ["aGREEK YPOGEGRAMMENIbSMALL REVERSED LUNATE SIGMA SYMBOL",
      "cDOTTED LUNATE SIGMA SYMBOLcREVERSED DOTTED LUNATE SIGMA SYMBOLbQUESTION MARK",
      "bCAPITAL LETTER YOT"]⟩,
    ⟨0x0384, ["aGREEK TONOSbDIALYTIKA TONOSbCAPITAL LETTER ALPHA WITH TONOSbANO TELEIA",
      "bCAPITAL LETTER EPSILON WITH TONOSdETA WITH TONOSdIOTA WITH TONOS"]⟩,
    ⟨0x038c, ["aGREEK CAPITAL LETTER OMICRON WITH TONOS"]⟩,
    ⟨0x038e, ["aGREEK CAPITAL LETTER UPSILON WITH TONOSdOMEGA WITH TONOS",
      "bSMALL LETTER IOTA WITH DIALYTIKA AND TONOSbCAPITAL LETTER ALPHAdBETAdGAMMAdDELTA",
      "dEPSILONdZETAdETAdTHETAdIOTAdKAPPAdLAMDAdMUdNUdXIdOMICRONdPIdRHO"]⟩,
    ⟨0x03a3, ["aGREEK CAPITAL LETTER SIGMAdTAUdUPSILONdPHIdCHIdPSIdOMEGAdIOTA WITH DIALYTIKA",
      "dUPSILON WITH DIALYTIKAbSMALL LETTER ALPHA WITH TONOSdEPSILON WITH TONOSdETA WITH TONOS",
      "dIOTA WITH TONOSdUPSILON WITH DIALYTIKA AND TONOSdALPHAdBETAdGAMMAdDELTAdEPSILONdZETA",
      "dETAdTHETAdIOTAdKAPPAdLAMDAdMUdNUdXIdOMICRONdPIdRHOdFINAL SIGMAdSIGMAdTAUdUPSILONdPHI",
      "dCHIdPSIdOMEGAdIOTA WITH DIALYTIKAdUPSILON WITH DIALYTIKAdOMICRON WITH TONOS",
      "dUPSILON WITH TONOSdOMEGA WITH TONOSbCAPITAL KAI SYMBOLbBETA SYMBOLbTHETA SYMBOL",
      "bUPSILON WITH HOOK SYMBOLdACUTE AND HOOK SYMBOLdDIAERESIS AND HOOK SYMBOLbPHI SYMBOL",
      "bPI SYMBOLbKAI SYMBOLbLETTER ARCHAIC KOPPAbSMALL LETTER ARCHAIC KOPPAbLETTER STIGMA",
      "bSMALL LETTER STIGMAbLETTER DIGAMMAbSMALL LETTER DIGAMMAbLETTER KOPPA",
      "bSMALL LETTER KOPPAbLETTER SAMPIbSMALL LETTER SAMPIaCOPTIC CAPITAL LETTER SHEI",
      "bSMALL LETTER SHEIbCAPITAL LETTER FEIbSMALL LETTER FEIbCAPITAL LETTER KHEI",
      "bSMALL LETTER KHEIbCAPITAL LETTER HORIbSMALL LETTER HORIbCAPITAL LETTER GANGIA",
      "bSMALL LETTER GANGIAbCAPITAL LETTER SHIMAbSMALL LETTER SHIMAbCAPITAL LETTER DEI",
      "bSMALL LETTER DEIaGREEK KAPPA SYMBOLbRHO SYMBOLbLUNATE SIGMA SYMBOLbLETTER YOT",
      "bCAPITAL THETA SYMBOLbLUNATE EPSILON SYMBOLbREVERSED LUNATE EPSILON SYMBOL",
      "bCAPITAL LETTER SHObSMALL LETTER SHObCAPITAL LUNATE SIGMA SYMBOLcLETTER SAN",
      "bSMALL LETTER SANbRHO WITH STROKE SYMBOLbCAPITAL REVERSED LUNATE SIGMA SYMBOL",
      "cDOTTED LUNATE SIGMA SYMBOLcREVERSED DOTTED LUNATE SIGMA SYMBOL",
      "aCYRILLIC CAPITAL LETTER IE WITH GRAVEdIOdDJEdGJEdUKRAINIAN IEdDZE",
      "dBYELORUSSIAN-UKRAINIAN IdYIdJEdLJEdNJEdTSHEdKJEdI WITH GRAVEdSHORT UdDZHEdAdBEdVEdGHE",
      "dDEdIEdZHEdZEdIdSHORT IdKAdELdEMdENdOdPEdERdESdTEdUdEFdHAdTSEdCHEdSHAdSHCHAdHARD SIGN",
      "dYERUdSOFT SIGNdEdYUdYAbSMALL LETTER AdBEdVEdGHEdDEdIEdZHEdZEdIdSHORT IdKAdELdEMdENdO",
      "dPEdERdESdTEdUdEFdHAdTSEdCHEdSHAdSHCHAdHARD SIGNdYERUdSOFT SIGNdEdYUdYAdIE WITH GRAVE",
      "dIOdDJEdGJEdUKRAINIAN IEdDZEdBYELORUSSIAN-UKRAINIAN IdYIdJEdLJEdNJEdTSHEdKJE",
      "dI WITH GRAVEdSHORT UdDZHEbCAPITAL LETTER OMEGAbSMALL LETTER OMEGAbCAPITAL LETTER YAT",
      "bSMALL LETTER YATbCAPITAL LETTER IOTIFIED EbSMALL LETTER IOTIFIED E",
      "bCAPITAL LETTER LITTLE YUSbSMALL LETTER LITTLE YUSbCAPITAL LETTER IOTIFIED LITTLE YUS",
      "bSMALL LETTER IOTIFIED LITTLE YUSbCAPITAL LETTER BIG YUSbSMALL LETTER BIG YUS",
      "bCAPITAL LETTER IOTIFIED BIG YUSbSMALL LETTER IOTIFIED BIG YUSbCAPITAL LETTER KSI",
      "bSMALL LETTER KSIbCAPITAL LETTER PSIbSMALL LETTER PSIbCAPITAL LETTER FITA",
      "bSMALL LETTER FITAbCAPITAL LETTER IZHITSAbSMALL LETTER IZHITSA",
      "bCAPITAL LETTER IZHITSA WITH DOUBLE GRAVE ACCENT",
      "bSMALL LETTER IZHITSA WITH DOUBLE GRAVE ACCENTbCAPITAL LETTER UKbSMALL LETTER UK",
      "bCAPITAL LETTER ROUND OMEGAbSMALL LETTER ROUND OMEGAbCAPITAL LETTER OMEGA WITH TITLO",
      "bSMALL LETTER OMEGA WITH TITLObCAPITAL LETTER OTbSMALL LETTER OTbCAPITAL LETTER KOPPA",
      "bSMALL LETTER KOPPAbTHOUSANDS SIGNaCOMBINING CYRILLIC TITLOcPALATALIZATION",
      "cDASIA PNEUMATAcPSILI PNEUMATAcPOKRYTIEcHUNDRED THOUSANDS SIGNcMILLIONS SIGN",
      "aCYRILLIC CAPITAL LETTER SHORT I WITH TAILbSMALL LETTER SHORT I WITH TAIL",
      "bCAPITAL LETTER SEMISOFT SIGNbSMALL LETTER SEMISOFT SIGNbCAPITAL LETTER ER WITH TICK",
      "bSMALL LETTER ER WITH TICKbCAPITAL LETTER GHE WITH UPTURNbSMALL LETTER GHE WITH UPTURN",
      "bCAPITAL LETTER GHE WITH STROKEbSMALL LETTER GHE WITH STROKE",
      "bCAPITAL LETTER GHE WITH MIDDLE HOOKbSMALL LETTER GHE WITH MIDDLE HOOK",
      "bCAPITAL LETTER ZHE WITH DESCENDERbSMALL LETTER ZHE WITH DESCENDER",
      "bCAPITAL LETTER ZE WITH DESCENDERbSMALL LETTER ZE WITH DESCENDER",
      "bCAPITAL LETTER KA WITH DESCENDERbSMALL LETTER KA WITH DESCENDER",
      "bCAPITAL LETTER KA WITH VERTICAL STROKEbSMALL LETTER KA WITH VERTICAL STROKE",
      "bCAPITAL LETTER KA WITH STROKEbSMALL LETTER KA WITH STROKEbCAPITAL LETTER BASHKIR KA",
      "bSMALL LETTER BASHKIR KAbCAPITAL LETTER EN WITH DESCENDER",
      "bSMALL LETTER EN WITH DESCENDERbCAPITAL LIGATURE EN GHEbSMALL LIGATURE EN GHE",
      "bCAPITAL LETTER PE WITH MIDDLE HOOKbSMALL LETTER PE WITH MIDDLE HOOK",
      "bCAPITAL LETTER ABKHASIAN HAbSMALL LETTER ABKHASIAN HAbCAPITAL LETTER ES WITH DESCENDER",
      "bSMALL LETTER ES WITH DESCENDERbCAPITAL LETTER TE WITH DESCENDER",
      "bSMALL LETTER TE WITH DESCENDERbCAPITAL LETTER STRAIGHT UbSMALL LETTER STRAIGHT U",
      "bCAPITAL LETTER STRAIGHT U WITH STROKEbSMALL LETTER STRAIGHT U WITH STROKE",
      "bCAPITAL LETTER HA WITH DESCENDERbSMALL LETTER HA WITH DESCENDER",
      "bCAPITAL LIGATURE TE TSEbSMALL LIGATURE TE TSEbCAPITAL LETTER CHE WITH DESCENDER",
      "bSMALL LETTER CHE WITH DESCENDERbCAPITAL LETTER CHE WITH VERTICAL STROKE",
      "bSMALL LETTER CHE WITH VERTICAL STROKEbCAPITAL LETTER SHHAbSMALL LETTER SHHA",
      "bCAPITAL LETTER ABKHASIAN CHEbSMALL LETTER ABKHASIAN CHE",
      "bCAPITAL LETTER ABKHASIAN CHE WITH DESCENDERbSMALL LETTER ABKHASIAN CHE WITH DESCENDER",
      "bLETTER PALOCHKAbCAPITAL LETTER ZHE WITH BREVEbSMALL LETTER ZHE WITH BREVE",
      "bCAPITAL LETTER KA WITH HOOKbSMALL LETTER KA WITH HOOKbCAPITAL LETTER EL WITH TAIL",
      "bSMALL LETTER EL WITH TAILbCAPITAL LETTER EN WITH HOOKbSMALL LETTER EN WITH HOOK",
      "bCAPITAL LETTER EN WITH TAILbSMALL LETTER EN WITH TAILbCAPITAL LETTER KHAKASSIAN CHE",
      "bSMALL LETTER KHAKASSIAN CHEbCAPITAL LETTER EM WITH TAILbSMALL LETTER EM WITH TAIL",
      "dPALOCHKAbCAPITAL LETTER A WITH BREVEbSMALL LETTER A WITH BREVE",
      "bCAPITAL LETTER A WITH DIAERESISbSMALL LETTER A WITH DIAERESISbCAPITAL LIGATURE A IE",
      "bSMALL LIGATURE A IEbCAPITAL LETTER IE WITH BREVEbSMALL LETTER IE WITH BREVE",
      "bCAPITAL LETTER SCHWAbSMALL LETTER SCHWAbCAPITAL LETTER SCHWA WITH DIAERESIS",
      "bSMALL LETTER SCHWA WITH DIAERESISbCAPITAL LETTER ZHE WITH DIAERESIS",
      "bSMALL LETTER ZHE WITH DIAERESISbCAPITAL LETTER ZE WITH DIAERESIS",
      "bSMALL LETTER ZE WITH DIAERESISbCAPITAL LETTER ABKHASIAN DZEbSMALL LETTER ABKHASIAN DZE",
      "bCAPITAL LETTER I WITH MACRONbSMALL LETTER I WITH MACRON",
      "bCAPITAL LETTER I WITH DIAERESISbSMALL LETTER I WITH DIAERESIS",
      "bCAPITAL LETTER O WITH DIAERESISbSMALL LETTER O WITH DIAERESISbCAPITAL LETTER BARRED O",
      "bSMALL LETTER BARRED ObCAPITAL LETTER BARRED O WITH DIAERESIS",
      "bSMALL LETTER BARRED O WITH DIAERESISbCAPITAL LETTER E WITH DIAERESIS",
      "bSMALL LETTER E WITH DIAERESISbCAPITAL LETTER U WITH MACRONbSMALL LETTER U WITH MACRON",
      "bCAPITAL LETTER U WITH DIAERESISbSMALL LETTER U WITH DIAERESIS",
      "bCAPITAL LETTER U WITH DOUBLE ACUTEbSMALL LETTER U WITH DOUBLE ACUTE",
      "bCAPITAL LETTER CHE WITH DIAERESISbSMALL LETTER CHE WITH DIAERESIS",
      "bCAPITAL LETTER GHE WITH DESCENDERbSMALL LETTER GHE WITH DESCENDER",
      "bCAPITAL LETTER YERU WITH DIAERESISbSMALL LETTER YERU WITH DIAERESIS",
      "bCAPITAL LETTER GHE WITH STROKE AND HOOKbSMALL LETTER GHE WITH STROKE AND HOOK",
      "bCAPITAL LETTER HA WITH HOOKbSMALL LETTER HA WITH HOOKbCAPITAL LETTER HA WITH STROKE",
      "bSMALL LETTER HA WITH STROKEbCAPITAL LETTER KOMI DEbSMALL LETTER KOMI DE",
      "bCAPITAL LETTER KOMI DJEbSMALL LETTER KOMI DJEbCAPITAL LETTER KOMI ZJE",
      "bSMALL LETTER KOMI ZJEbCAPITAL LETTER KOMI DZJEbSMALL LETTER KOMI DZJE",
      "bCAPITAL LETTER KOMI LJEbSMALL LETTER KOMI LJEbCAPITAL LETTER KOMI NJE",
      "bSMALL LETTER KOMI NJEbCAPITAL LETTER KOMI SJEbSMALL LETTER KOMI SJE",
      "bCAPITAL LETTER KOMI TJEbSMALL LETTER KOMI TJEbCAPITAL LETTER REVERSED ZE",
      "bSMALL LETTER REVERSED ZEbCAPITAL LETTER EL WITH HOOKbSMALL LETTER EL WITH HOOK",
      "bCAPITAL LETTER LHAbSMALL LETTER LHAbCAPITAL LETTER RHAbSMALL LETTER RHA",
      "bCAPITAL LETTER YAEbSMALL LETTER YAEbCAPITAL LETTER QAbSMALL LETTER QA",
      "bCAPITAL LETTER WEbSMALL LETTER WEbCAPITAL LETTER ALEUT KAbSMALL LETTER ALEUT KA",
      "bCAPITAL LETTER EL WITH MIDDLE HOOKbSMALL LETTER EL WITH MIDDLE HOOK",
      "bCAPITAL LETTER EN WITH MIDDLE HOOKbSMALL LETTER EN WITH MIDDLE HOOK",
      "bCAPITAL LETTER PE WITH DESCENDERbSMALL LETTER PE WITH DESCENDER",
      "bCAPITAL LETTER SHHA WITH DESCENDERbSMALL LETTER SHHA WITH DESCENDER",
      "bCAPITAL LETTER EN WITH LEFT HOOKbSMALL LETTER EN WITH LEFT HOOKbCAPITAL LETTER DZZHE",
      "bSMALL LETTER DZZHEbCAPITAL LETTER DCHEbSMALL LETTER DCHE",
      "bCAPITAL LETTER EL WITH DESCENDERbSMALL LETTER EL WITH DESCENDER"]⟩,
    ⟨0x0531, ["aARMENIAN CAPITAL LETTER AYBdBENdGIMdDAdECHdZAdEHdETdTOdZHEdINIdLIWNdXEHdCAdKEN",
      "dHOdJAdGHADdCHEHdMENdYIdNOWdSHAdVOdCHAdPEHdJHEHdRAdSEHdVEWdTIWNdREHdCOdYIWNdPIWRdKEHdOH",
      "dFEH"]⟩,
    ⟨0x0559, ["aARMENIAN MODIFIER LETTER LEFT HALF RINGbAPOSTROPHEbEMPHASIS MARK",
      "bEXCLAMATION MARKbCOMMAbQUESTION MARKbABBREVIATION MARKbSMALL LETTER TURNED AYBdAYBdBEN",
      "dGIMdDAdECHdZAdEHdETdTOdZHEdINIdLIWNdXEHdCAdKENdHOdJAdGHADdCHEHdMENdYIdNOWdSHAdVOdCHA",
      "dPEHdJHEHdRAdSEHdVEWdTIWNdREHdCOdYIWNdPIWRdKEHdOHdFEHcLIGATURE ECH YIWN",
      "cLETTER YI WITH STROKEbFULL STOPbHYPHEN"]⟩]

def namesFrom058D : List NameRun :=
  [⟨0x058d, ["aRIGHT-FACING ARMENIAN ETERNITY SIGNaLEFT-FACING ARMENIAN ETERNITY SIGN",
      "aARMENIAN DRAM SIGN"]⟩,
    ⟨0x0591, ["aHEBREW ACCENT ETNAHTAcSEGOLcSHALSHELETcZAQEF QATANdGADOLcTIPEHAcREVIAcZARQA",
      "cPASHTAcYETIVcTEVIRcGERESHdMUQDAMcGERSHAYIMcQARNEY PARAcTELISHA GEDOLAcPAZER",
      "cATNAH HAFUKHcMUNAHcMAHAPAKHcMERKHAdKEFULAcDARGAcQADMAcTELISHA QETANAcYERAH BEN YOMO",
      "cOLEcILUYcDEHIcZINORbMARK MASORA CIRCLEbPOINT SHEVAcHATAF SEGOLdPATAHdQAMATScHIRIQ",
      "cTSEREcSEGOLcPATAHcQAMATScHOLAMdHASER FOR VAVcQUBUTScDAGESH OR MAPIQcMETEG",
      "bPUNCTUATION MAQAFbPOINT RAFEbPUNCTUATION PASEQbPOINT SHIN DOTcSIN DOT",
      "bPUNCTUATION SOF PASUQbMARK UPPER DOTcLOWER DOTbPUNCTUATION NUN HAFUKHA",
      "bPOINT QAMATS QATAN"]⟩,
    ⟨0x05d0, ["aHEBREW LETTER ALEFcBETcGIMELcDALETcHEcVAVcZAYINcHETcTETcYODcFINAL KAFcKAFcLAMED",
      "cFINAL MEMcMEMcFINAL NUNcNUNcSAMEKHcAYINcFINAL PEcPEcFINAL TSADIcTSADIcQOFcRESHcSHIN",
      "cTAV"]⟩,
    ⟨0x05ef, ["aHEBREW YOD TRIANGLEbLIGATURE YIDDISH DOUBLE VAVdVAV YODdDOUBLE YOD",
      "bPUNCTUATION GERESHcGERSHAYIM"]⟩,
    ⟨0x0600, ["aARABIC NUMBER SIGNbSIGN SANAHbFOOTNOTE MARKERbSIGN SAFHAcSAMVAT",
      "bNUMBER MARK ABOVEaARABIC-INDIC CUBE ROOTbFOURTH ROOTaARABIC RAY",
      "aARABIC-INDIC PER MILLE SIGNcTEN THOUSAND SIGNaAFGHANI SIGNaARABIC COMMAbDATE SEPARATOR",
      "bPOETIC VERSE SIGNbSIGN MISRAcSALLALLAHOU ALAYHE WASSALLAMcALAYHE ASSALLAM",
      "cRAHMATULLAH ALAYHEcRADI ALLAHOU ANHUcTAKHALLUSbSMALL HIGH TAH",
      "dLIGATURE ALEF WITH LAM WITH YEHdZAINcFATHAcDAMMAcKASRAbSEMICOLONbLETTER MARK",
      "bEND OF TEXT MARKbTRIPLE DOT PUNCTUATION MARKbQUESTION MARKbLETTER KASHMIRI YEHcHAMZA",
      "cALEF WITH MADDA ABOVEeHAMZA ABOVEcWAW WITH HAMZA ABOVEcALEF WITH HAMZA BELOW",
      "cYEH WITH HAMZA ABOVEcALEFcBEHcTEH MARBUTAcTEHcTHEHcJEEMcHAHcKHAHcDALcTHALcREHcZAIN",
      "cSEENcSHEENcSADcDADcTAHcZAHcAINcGHAINcKEHEH WITH TWO DOTS ABOVEeTHREE DOTS BELOW",
      "cFARSI YEH WITH INVERTED VfTWO DOTS ABOVEfTHREE DOTS ABOVEbTATWEELbLETTER FEHcQAFcKAF",
      "cLAMcMEEMcNOONcHEHcWAWcALEF MAKSURAcYEHbFATHATANbDAMMATANbKASRATANbFATHAbDAMMAbKASRA",
      "bSHADDAbSUKUNbMADDAH ABOVEbHAMZA ABOVEcBELOWbSUBSCRIPT ALEFbINVERTED DAMMA",
      "bMARK NOON GHUNNAbZWARAKAYbVOWEL SIGN SMALL V ABOVEdINVERTED SMALL V ABOVEdDOT BELOW",
      "bREVERSED DAMMAbFATHA WITH TWO DOTSbWAVY HAMZA BELOWaARABIC-INDIC DIGIT ZEROcONEcTWO",
      "cTHREEcFOURcFIVEcSIXcSEVENcEIGHTcNINEaARABIC PERCENT SIGNbDECIMAL SEPARATOR",
      "bTHOUSANDS SEPARATORbFIVE POINTED STARbLETTER DOTLESS BEHdQAFcSUPERSCRIPT ALEF",
      "cALEF WASLAdWITH WAVY HAMZA ABOVEgBELOWcHIGH HAMZAeALEFeWAWcU WITH HAMZA ABOVE",
      "cHIGH HAMZA YEHcTTEHcTTEHEHcBEEHcTEH WITH RINGeTHREE DOTS ABOVE DOWNWARDScPEHcTEHEH",
      "cBEHEHcHAH WITH HAMZA ABOVEeTWO DOTS VERTICAL ABOVEcNYEHcDYEHcHAH WITH THREE DOTS ABOVE",
      "cTCHEHcTCHEHEHcDDALcDAL WITH RINGeDOT BELOWgAND SMALL TAHcDAHALcDDAHALcDUL",
      "cDAL WITH THREE DOTS ABOVE DOWNWARDSeFOUR DOTS ABOVEcRREHcREH WITH SMALL VeRING",
      "eDOT BELOWeSMALL V BELOWeDOT BELOW AND DOT ABOVEeTWO DOTS ABOVEcJEH",
      "cREH WITH FOUR DOTS ABOVEcSEEN WITH DOT BELOW AND DOT ABOVEeTHREE DOTS BELOW",
      "hAND THREE DOTS ABOVEcSAD WITH TWO DOTS BELOWeTHREE DOTS ABOVE",
      "cTAH WITH THREE DOTS ABOVEcAIN WITH THREE DOTS ABOVEcDOTLESS FEH",
      "cFEH WITH DOT MOVED BELOWfBELOWcVEHcFEH WITH THREE DOTS BELOWcPEHEHcQAF WITH DOT ABOVE",
      "eTHREE DOTS ABOVEcKEHEHcSWASH KAFcKAF WITH RINGeDOT ABOVEcNGcKAF WITH THREE DOTS BELOW",
      "cGAFdWITH RINGcNGOEHcGAF WITH TWO DOTS BELOWcGUEHcGAF WITH THREE DOTS ABOVE",
      "cLAM WITH SMALL VeDOT ABOVEeTHREE DOTS ABOVEgBELOWcNOON WITH DOT BELOWdGHUNNAcRNOON",
      "cNOON WITH RINGeTHREE DOTS ABOVEcHEH DOACHASHMEEcTCHEH WITH DOT ABOVE",
      "cHEH WITH YEH ABOVEdGOALeWITH HAMZA ABOVEcTEH MARBUTA GOALcWAW WITH RINGcKIRGHIZ OEcOE",
      "cUcYUcKIRGHIZ YUcWAW WITH TWO DOTS ABOVEcVEcFARSI YEHcYEH WITH TAILeSMALL V",
      "cWAW WITH DOT ABOVEcEcYEH WITH THREE DOTS BELOWdBARREEeWITH HAMZA ABOVEbFULL STOP",
      "bLETTER AEbSMALL HIGH LIGATURE SAD WITH LAM WITH ALEF MAKSURA",
      "eQAF WITH LAM WITH ALEF MAKSURAdMEEM INITIAL FORMdLAM ALEFdJEEMdTHREE DOTSdSEEN",
      "bEND OF AYAHbSTART OF RUB EL HIZBbSMALL HIGH ROUNDED ZEROdUPRIGHT RECTANGULAR ZERO",
      "dDOTLESS HEAD OF KHAHdMEEM ISOLATED FORMcLOW SEENcHIGH MADDAcWAWcYEHcHIGH YEHdNOON",
      "bPLACE OF SAJDAHbEMPTY CENTRE LOW STOPdHIGH STOPbROUNDED HIGH STOP WITH FILLED CENTRE",
      "bSMALL LOW MEEMbLETTER DAL WITH INVERTED VcREH WITH INVERTED V",
      "aEXTENDED ARABIC-INDIC DIGIT ZEROdONEdTWOdTHREEdFOURdFIVEdSIXdSEVENdEIGHTdNINE",
      "aARABIC LETTER SHEEN WITH DOT BELOWcDAD WITH DOT BELOWcGHAIN WITH DOT BELOW",
      "bSIGN SINDHI AMPERSANDdPOSTPOSITION MENbLETTER HEH WITH INVERTED V",
      "aSYRIAC END OF PARAGRAPHbSUPRALINEAR FULL STOPbSUBLINEAR FULL STOPbSUPRALINEAR COLON",
      "bSUBLINEAR COLONbHORIZONTAL COLONbCOLON SKEWED LEFTdRIGHTbSUPRALINEAR COLON SKEWED LEFT",
      "bSUBLINEAR COLON SKEWED RIGHTbCONTRACTIONbHARKLEAN OBELUScMETOBELUScASTERISCUS"]⟩,
    ⟨0x070f, ["aSYRIAC ABBREVIATION MARKbLETTER ALAPHcSUPERSCRIPT ALAPHcBETHcGAMALdGARSHUNI",
      "cDALATHcDOTLESS DALATH RISHcHEcWAWcZAINcHETHcTETHdGARSHUNIcYUDHdHEcKAPHcLAMADHcMIMcNUN",
      "cSEMKATHcFINAL SEMKATHcEcPEcREVERSED PEcSADHEcQAPHcRISHcSHINcTAWcPERSIAN BHETHdGHAMAL",
      "dDHALATHbPTHAHA ABOVEcBELOWcDOTTEDbZQAPHA ABOVEcBELOWcDOTTEDbRBASA ABOVEcBELOW",
      "bDOTTED ZLAMA HORIZONTALdANGULARbHBASA ABOVEcBELOWbHBASA-ESASA DOTTEDbESASA ABOVEcBELOW",
      "bRWAHAbFEMININE DOTbQUSHSHAYAbRUKKAKHAbTWO VERTICAL DOTS ABOVEeBELOWbTHREE DOTS ABOVE",
      "dBELOWbOBLIQUE LINE ABOVEdBELOWbMUSICbBARREKH"]⟩,
    ⟨0x074d, ["aSYRIAC LETTER SOGDIAN ZHAINdKHAPHdFE",
      "aARABIC LETTER BEH WITH THREE DOTS HORIZONTALLY BELOWeDOT BELOW AND THREE DOTS ABOVE",
      "eTHREE DOTS POINTING UPWARDS BELOWjAND TWO DOTS ABOVEeTWO DOTS BELOW AND DOT ABOVE",
      "eINVERTED SMALL V BELOWeSMALL VcHAH WITH TWO DOTS ABOVE",
      "eTHREE DOTS POINTING UPWARDS BELOWcDAL WITH TWO DOTS VERTICALLY BELOW AND SMALL TAH",
      "eINVERTED SMALL V BELOWcREH WITH STROKEcSEEN WITH FOUR DOTS ABOVE",
      "cAIN WITH TWO DOTS ABOVEeTHREE DOTS POINTING DOWNWARDS ABOVEeTWO DOTS VERTICALLY ABOVE",
      "cFEH WITH TWO DOTS BELOWeTHREE DOTS POINTING UPWARDS BELOWcKEHEH WITH DOT ABOVE",
      "eTHREE DOTS ABOVEgPOINTING UPWARDS BELOWcMEEM WITH DOT ABOVEfBELOW",
      "cNOON WITH TWO DOTS BELOWeSMALL TAHfVcLAM WITH BARcREH WITH TWO DOTS VERTICALLY ABOVE",
      "eHAMZA ABOVEcSEEN WITH TWO DOTS VERTICALLY ABOVEcHAH WITH SMALL ARABIC LETTER TAH BELOW",
      "iAND TWO DOTScSEEN WITH SMALL ARABIC LETTER TAH AND TWO DOTS",
      "cREH WITH SMALL ARABIC LETTER TAH AND TWO DOTScHAH WITH SMALL ARABIC LETTER TAH ABOVE",
      "cALEF WITH EXTENDED ARABIC-INDIC DIGIT TWO ABOVEhTHREE ABOVE",
      "cFARSI YEH WITH EXTENDED ARABIC-INDIC DIGIT TWO ABOVEiTHREE ABOVEiFOUR BELOW",
      "cWAW WITH EXTENDED ARABIC-INDIC DIGIT TWO ABOVEhTHREE ABOVE",
      "cYEH BARREE WITH EXTENDED ARABIC-INDIC DIGIT TWO ABOVEiTHREE ABOVE",
      "cHAH WITH EXTENDED ARABIC-INDIC DIGIT FOUR BELOW",
      "cSEEN WITH EXTENDED ARABIC-INDIC DIGIT FOUR ABOVEeINVERTED VcKAF WITH TWO DOTS ABOVE",
      "aTHAANA LETTER HAAcSHAVIYANIcNOONUcRAAcBAAcLHAVIYANIcKAAFUcALIFUcVAAVUcMEEMUcFAAFU",
      "cDHAALUcTHAAcLAAMUcGAAFUcGNAVIYANIcSEENUcDAVIYANIcZAVIYANIcTAVIYANIcYAAcPAVIYANI",
      "cJAVIYANIcCHAVIYANIcTTAAcHHAAcKHAAcTHAALUcZAAcSHEENUcSAADHUcDAADHUcTOcZOcAINUcGHAINU",
      "cQAAFUcWAAVUbABAFILIbAABAAFILIbIBIFILIbEEBEEFILIbUBUFILIbOOBOOFILIbEBEFILIbEYBEYFILI",
      "bOBOFILIbOABOAFILIbSUKUNbLETTER NAA"]⟩,
    ⟨0x07c0, ["aNKO DIGIT ZEROcONEcTWOcTHREEcFOURcFIVEcSIXcSEVENcEIGHTcNINEbLETTER AcEEcIcEcUcOO",
      "cOcDAGBASINNAcNcBAcPAcTAcJAcCHAcDAcRAcRRAcSAcGBAcFAcKAcLAcNA WOLOSOcMAcNYAcNAcHAcWAcYA",
      "cNYA WOLOSOcJONA JAdCHAdRAbCOMBINING SHORT HIGH TONEdLOW TONEdRISING TONE",
      "cLONG DESCENDING TONEdHIGH TONEdLOW TONEdRISING TONEcNASALIZATION MARKcDOUBLE DOT ABOVE",
      "bHIGH TONE APOSTROPHEbLOW TONE APOSTROPHEbSYMBOL OO DENNENcGBAKURUNENbCOMMA",
      "bEXCLAMATION MARKbLAJANYALAN"]⟩,
    ⟨0x07fd, ["aNKO DANTAYALANbDOROME SIGNbTAMAN SIGNaSAMARITAN LETTER ALAFcBITcGAMANcDALATcIY",
      "cBAAcZENcITcTITcYUTcKAAFcLABATcMIMcNUNcSINGAATcINcFIcTSAADIYcQUFcRISHcSHANcTAAFbMARK IN",
      "cIN-ALAFcOCCLUSIONcDAGESHbMODIFIER LETTER EPENTHETIC YUTbMARK EPENTHETIC YUT",
      "bVOWEL SIGN LONG EdEdOVERLONG AAdLONG AAdAAdOVERLONG AdLONG AdAbMODIFIER LETTER SHORT A",
      "bVOWEL SIGN SHORT AdLONG UdUbMODIFIER LETTER IbVOWEL SIGN LONG IdIdOdSUKUNbMARK NEQUDAA"]⟩,
    ⟨0x0830, ["aSAMARITAN PUNCTUATION NEQUDAAcAFSAAQcANGEDcBAUcATMAAUcSHIYYAALAA",
      "bABBREVIATION MARKbPUNCTUATION MELODIC QITSAcZIQAAcQITSAcZAEFcTURUcARKAANUcSOF MASHFAAT",
      "cANNAAU"]⟩,
    ⟨0x0840, ["aMANDAIC LETTER HALQAcABcAGcADcAHcUSHENNAcAZcITcATTcAKSAcAKcALcAMcANcAScINcAPcASZ",
      "cAQcARcASHcATcDUSHENNAcKADcAINbAFFRICATION MARKbVOCALIZATION MARKbGEMINATION MARK"]⟩,
    ⟨0x085e, ["aMANDAIC PUNCTUATION"]⟩,
    ⟨0x0860, ["aSYRIAC LETTER MALAYALAM NGAdJAdNYAdTTAdNNAdNNNAdBHAdRAdLLAdLLLAdSSA"]⟩,
    ⟨0x0870, ["aARABIC LETTER ALEF WITH ATTACHED FATHAfTOP RIGHT FATHAeRIGHT MIDDLE STROKE",
      "eLEFT MIDDLE STROKEeATTACHED KASRAfBOTTOM RIGHT KASRAfROUND DOT ABOVEfRIGHT ROUND DOT",
      "fLEFT ROUND DOTfROUND DOT BELOWeDOT ABOVEeATTACHED TOP RIGHT FATHA AND DOT ABOVE",
      "eRIGHT MIDDLE STROKE AND DOT ABOVEeATTACHED BOTTOM RIGHT KASRA AND DOT ABOVE",
      "fTOP RIGHT FATHA AND LEFT RINGeRIGHT MIDDLE STROKE AND LEFT RING",
      "eATTACHED BOTTOM RIGHT KASRA AND LEFT RINGfRIGHT HAMZAfLEFT HAMZA",
      "bTATWEEL WITH OVERSTRUCK HAMZAeWAWdTWO DOTS BELOWbLETTER THIN YEHbBASELINE ROUND DOT",
      "bRAISED ROUND DOTbLETTER NOON WITH INVERTED SMALL VcHAH WITH INVERTED SMALL V BELOW",
      "cTAH WITH DOT BELOWeTHREE DOTS BELOWcKEHEH WITH TWO DOTS VERTICALLY BELOWbVERTICAL TAIL"]⟩,
    ⟨0x0890, ["aARABIC POUND MARK ABOVEbPIASTRE MARK ABOVE"]⟩]

def namesFrom0898 : List NameRun :=
  [⟨0x0898, ["aARABIC SMALL HIGH WORD AL-JUZcLOW WORD ISHMAAMeIMAALAeTASHEELbMADDA WAAJIB",
      "bSUPERSCRIPT ALEF MOKHASSASbDOUBLED MADDAbHALF MADDA OVER MADDA",
      "bLETTER BEH WITH SMALL V BELOWeHAMZA ABOVEcJEEM WITH TWO DOTS ABOVE",
      "cTAH WITH TWO DOTS ABOVEcFEH WITH DOT BELOW AND THREE DOTS ABOVEcQAF WITH DOT BELOW",
      "cLAM WITH DOUBLE BARcMEEM WITH THREE DOTS ABOVEcYEH WITH TWO DOTS BELOW AND HAMZA ABOVE",
      "iDOT ABOVEcREH WITH LOOPcWAW WITH DOT WITHINcROHINGYA YEHcLOW ALEF",
      "cDAL WITH THREE DOTS BELOWcSAD WITH THREE DOTS BELOWcGAF WITH INVERTED STROKE",
      "cSTRAIGHT WAWcZAIN WITH INVERTED V ABOVEcAIN WITH THREE DOTS BELOWcKAF WITH DOT BELOW",
      "cQAF WITH DOT BELOW AND NO DOTS ABOVEcBEH WITH SMALL MEEM ABOVE",
      "cPEH WITH SMALL MEEM ABOVEcTEH WITH SMALL TEH ABOVEcREH WITH SMALL NOON ABOVE",
      "cYEH WITH TWO DOTS BELOW AND SMALL NOON ABOVEcAFRICAN FEHdQAFdNOONcPEH WITH SMALL V",
      "cTEH WITH SMALL VcTTEH WITH SMALL VcTCHEH WITH SMALL VcKEHEH WITH SMALL V",
      "cGHAIN WITH THREE DOTS ABOVEcAFRICAN QAF WITH THREE DOTS ABOVE",
      "cJEEM WITH THREE DOTS ABOVEgBELOWcLAM WITH SMALL ARABIC LETTER TAH ABOVEcGRAF",
      "bSMALL FARSI YEHcHIGH FARSI YEHdYEH BARREE WITH TWO DOTS BELOWdWORD SAHdZAH",
      "bLARGE ROUND DOT ABOVEeBELOWbSUKUN BELOWbLARGE CIRCLE BELOW",
      "cROUND DOT INSIDE CIRCLE BELOWbSMALL LOW WAWcHIGH WORD AR-RUBdSADdAINdQAF",
      "dNOON WITH KASRAcLOW NOON WITH KASRAcHIGH WORD ATH-THALATHAeAS-SAJDAeAN-NISFeSAKTAeQIF",
      "eWAQFAdFOOTNOTE MARKERdSIGN SAFHAbDISPUTED END OF AYAHbTURNED DAMMA BELOWbCURLY FATHA",
      "cDAMMAcKASRAcFATHATANcDAMMATANcKASRATANbTONE ONE DOT ABOVEcTWO DOTS ABOVEcLOOP ABOVE",
      "cONE DOT BELOWcTWO DOTS BELOWcLOOP BELOWbOPEN FATHATANcDAMMATANcKASRATANbSMALL HIGH WAW",
      "bFATHA WITH RINGdDOT ABOVEbKASRA WITH DOT BELOWbLEFT ARROWHEAD ABOVE",
      "bRIGHT ARROWHEAD ABOVEbLEFT ARROWHEAD BELOWbRIGHT ARROWHEAD BELOW",
      "bDOUBLE RIGHT ARROWHEAD ABOVEfWITH DOTbRIGHT ARROWHEAD ABOVE WITH DOTbDAMMA WITH DOT",
      "bMARK SIDEWAYS NOON GHUNNAaDEVANAGARI SIGN INVERTED CANDRABINDUcCANDRABINDUcANUSVARA",
      "cVISARGAbLETTER SHORT AcAcAAcIcIIcUcUUcVOCALIC RdLcCANDRA EcSHORT EcEcAIcCANDRA O",
      "cSHORT OcOcAUcKAcKHAcGAcGHAcNGAcCAcCHAcJAcJHAcNYAcTTAcTTHAcDDAcDDHAcNNAcTAcTHAcDAcDHA",
      "cNAcNNNAcPAcPHAcBAcBHAcMAcYAcRAcRRAcLAcLLAcLLLAcVAcSHAcSSAcSAcHAbVOWEL SIGN OEdOOE",
      "bSIGN NUKTAcAVAGRAHAbVOWEL SIGN AAdIdIIdUdUUdVOCALIC ReRRdCANDRA EdSHORT EdEdAI",
      "dCANDRA OdSHORT OdOdAUbSIGN VIRAMAbVOWEL SIGN PRISHTHAMATRA EdAWbOMbSTRESS SIGN UDATTA",
      "dANUDATTAbGRAVE ACCENTbACUTE ACCENTbVOWEL SIGN CANDRA LONG EdUEdUUEbLETTER QAcKHHAcGHHA",
      "cZAcDDDHAcRHAcFAcYYAcVOCALIC RRdLLbVOWEL SIGN VOCALIC LeLLbDANDAbDOUBLE DANDA",
      "bDIGIT ZEROcONEcTWOcTHREEcFOURcFIVEcSIXcSEVENcEIGHTcNINEbABBREVIATION SIGN",
      "bSIGN HIGH SPACING DOTbLETTER CANDRA AcOEcOOEcAWcUEcUUEcMARWARI DDAcZHAcHEAVY YAcGGA",
      "cJJAcGLOTTAL STOPcDDDAcBBAaBENGALI ANJIbSIGN CANDRABINDUcANUSVARAcVISARGA"]⟩,
    ⟨0x0985, ["aBENGALI LETTER AcAAcIcIIcUcUUcVOCALIC RdL"]⟩,
    ⟨0x098f, ["aBENGALI LETTER EcAI"]⟩,
    ⟨0x0993, ["aBENGALI LETTER OcAUcKAcKHAcGAcGHAcNGAcCAcCHAcJAcJHAcNYAcTTAcTTHAcDDAcDDHAcNNAcTA",
      "cTHAcDAcDHAcNA"]⟩,
    ⟨0x09aa, ["aBENGALI LETTER PAcPHAcBAcBHAcMAcYAcRA"]⟩,
    ⟨0x09b2, ["aBENGALI LETTER LA"]⟩,
    ⟨0x09b6, ["aBENGALI LETTER SHAcSSAcSAcHA"]⟩,
    ⟨0x09bc, ["aBENGALI SIGN NUKTAcAVAGRAHAbVOWEL SIGN AAdIdIIdUdUUdVOCALIC ReRR"]⟩,
    ⟨0x09c7, ["aBENGALI VOWEL SIGN EdAI"]⟩,
    ⟨0x09cb, ["aBENGALI VOWEL SIGN OdAUbSIGN VIRAMAbLETTER KHANDA TA"]⟩,
    ⟨0x09d7, ["aBENGALI AU LENGTH MARK"]⟩,
    ⟨0x09dc, ["aBENGALI LETTER RRAcRHA"]⟩,
    ⟨0x09df, ["aBENGALI LETTER YYAcVOCALIC RRdLLbVOWEL SIGN VOCALIC LeLL"]⟩,
    ⟨0x09e6, ["aBENGALI DIGIT ZEROcONEcTWOcTHREEcFOURcFIVEcSIXcSEVENcEIGHTcNINE",
      "bLETTER RA WITH MIDDLE DIAGONALeLOWER DIAGONALbRUPEE MARKcSIGNbCURRENCY NUMERATOR ONE",
      "dTWOdTHREEdFOURdONE LESS THAN THE DENOMINATORcDENOMINATOR SIXTEENbISSHARbGANDA MARK",
      "bLETTER VEDIC ANUSVARAbABBREVIATION SIGNbSANDHI MARK"]⟩,
    ⟨0x0a01, ["aGURMUKHI SIGN ADAK BINDIcBINDIcVISARGA"]⟩,
    ⟨0x0a05, ["aGURMUKHI LETTER AcAAcIcIIcUcUU"]⟩,
    ⟨0x0a0f, ["aGURMUKHI LETTER EEcAI"]⟩,
    ⟨0x0a13, ["aGURMUKHI LETTER OOcAUcKAcKHAcGAcGHAcNGAcCAcCHAcJAcJHAcNYAcTTAcTTHAcDDAcDDHAcNNA",
      "cTAcTHAcDAcDHAcNA"]⟩,
    ⟨0x0a2a, ["aGURMUKHI LETTER PAcPHAcBAcBHAcMAcYAcRA"]⟩,
    ⟨0x0a32, ["aGURMUKHI LETTER LAcLLA"]⟩,
    ⟨0x0a35, ["aGURMUKHI LETTER VAcSHA"]⟩,
    ⟨0x0a38, ["aGURMUKHI LETTER SAcHA"]⟩,
    ⟨0x0a3c, ["aGURMUKHI SIGN NUKTA"]⟩,
    ⟨0x0a3e, ["aGURMUKHI VOWEL SIGN AAdIdIIdUdUU"]⟩,
    ⟨0x0a47, ["aGURMUKHI VOWEL SIGN EEdAI"]⟩,
    ⟨0x0a4b, ["aGURMUKHI VOWEL SIGN OOdAUbSIGN VIRAMA"]⟩,
    ⟨0x0a51, ["aGURMUKHI SIGN UDAAT"]⟩,
    ⟨0x0a59, ["aGURMUKHI LETTER KHHAcGHHAcZAcRRA"]⟩,
    ⟨0x0a5e, ["aGURMUKHI LETTER FA"]⟩,
    ⟨0x0a66, ["aGURMUKHI DIGIT ZEROcONEcTWOcTHREEcFOURcFIVEcSIXcSEVENcEIGHTcNINEbTIPPIbADDAKbIRI",
      "bURAbEK ONKARbSIGN YAKASHbABBREVIATION SIGN"]⟩,
    ⟨0x0a81, ["aGUJARATI SIGN CANDRABINDUcANUSVARAcVISARGA"]⟩,
    ⟨0x0a85, ["aGUJARATI LETTER AcAAcIcIIcUcUUcVOCALIC RdLbVOWEL CANDRA E"]⟩,
    ⟨0x0a8f, ["aGUJARATI LETTER EcAIbVOWEL CANDRA O"]⟩,
    ⟨0x0a93, ["aGUJARATI LETTER OcAUcKAcKHAcGAcGHAcNGAcCAcCHAcJAcJHAcNYAcTTAcTTHAcDDAcDDHAcNNA",
      "cTAcTHAcDAcDHAcNA"]⟩,
    ⟨0x0aaa, ["aGUJARATI LETTER PAcPHAcBAcBHAcMAcYAcRA"]⟩,
    ⟨0x0ab2, ["aGUJARATI LETTER LAcLLA"]⟩,
    ⟨0x0ab5, ["aGUJARATI LETTER VAcSHAcSSAcSAcHA"]⟩,
    ⟨0x0abc, ["aGUJARATI SIGN NUKTAcAVAGRAHAbVOWEL SIGN AAdIdIIdUdUUdVOCALIC ReRRdCANDRA E"]⟩,
    ⟨0x0ac7, ["aGUJARATI VOWEL SIGN EdAIdCANDRA O"]⟩,
    ⟨0x0acb, ["aGUJARATI VOWEL SIGN OdAUbSIGN VIRAMA"]⟩]

def namesFrom0AD0 : List NameRun :=
  [⟨0x0ad0, ["aGUJARATI OM"]⟩,
    ⟨0x0ae0, ["aGUJARATI LETTER VOCALIC RRdLLbVOWEL SIGN VOCALIC LeLL"]⟩,
    ⟨0x0ae6, ["aGUJARATI DIGIT ZEROcONEcTWOcTHREEcFOURcFIVEcSIXcSEVENcEIGHTcNINE",
      "bABBREVIATION SIGNbRUPEE SIGN"]⟩,
    ⟨0x0af9, ["aGUJARATI LETTER ZHAbSIGN SUKUNcSHADDAcMADDAHcTHREE-DOT NUKTA ABOVE",
      "cCIRCLE NUKTA ABOVEcTWO-CIRCLE NUKTA ABOVE"]⟩,
    ⟨0x0b01, ["aORIYA SIGN CANDRABINDUcANUSVARAcVISARGA"]⟩,
    ⟨0x0b05, ["aORIYA LETTER AcAAcIcIIcUcUUcVOCALIC RdL"]⟩,
    ⟨0x0b0f, ["aORIYA LETTER EcAI"]⟩,
    ⟨0x0b13, ["aORIYA LETTER OcAUcKAcKHAcGAcGHAcNGAcCAcCHAcJAcJHAcNYAcTTAcTTHAcDDAcDDHAcNNAcTA",
      "cTHAcDAcDHAcNA"]⟩,
    ⟨0x0b2a, ["aORIYA LETTER PAcPHAcBAcBHAcMAcYAcRA"]⟩,
    ⟨0x0b32, ["aORIYA LETTER LAcLLA"]⟩,
    ⟨0x0b35, ["aORIYA LETTER VAcSHAcSSAcSAcHA"]⟩,
    ⟨0x0b3c, ["aORIYA SIGN NUKTAcAVAGRAHAbVOWEL SIGN AAdIdIIdUdUUdVOCALIC ReRR"]⟩,
    ⟨0x0b47, ["aORIYA VOWEL SIGN EdAI"]⟩,
    ⟨0x0b4b, ["aORIYA VOWEL SIGN OdAUbSIGN VIRAMA"]⟩,
    ⟨0x0b55, ["aORIYA SIGN OVERLINEbAI LENGTH MARKbAU LENGTH MARK"]⟩,
    ⟨0x0b5c, ["aORIYA LETTER RRAcRHA"]⟩,
    ⟨0x0b5f, ["aORIYA LETTER YYAcVOCALIC RRdLLbVOWEL SIGN VOCALIC LeLL"]⟩,
    ⟨0x0b66, ["aORIYA DIGIT ZEROcONEcTWOcTHREEcFOURcFIVEcSIXcSEVENcEIGHTcNINEbISSHARbLETTER WA",
      "bFRACTION ONE QUARTERdHALFcTHREE QUARTERScONE SIXTEENTHdEIGHTHcTHREE SIXTEENTHS"]⟩,
    ⟨0x0b82, ["aTAMIL SIGN ANUSVARAcVISARGA"]⟩,
    ⟨0x0b85, ["aTAMIL LETTER AcAAcIcIIcUcUU"]⟩,
    ⟨0x0b8e, ["aTAMIL LETTER EcEEcAI"]⟩,
    ⟨0x0b92, ["aTAMIL LETTER OcOOcAUcKA"]⟩,
    ⟨0x0b99, ["aTAMIL LETTER NGAcCA"]⟩,
    ⟨0x0b9c, ["aTAMIL LETTER JA"]⟩,
    ⟨0x0b9e, ["aTAMIL LETTER NYAcTTA"]⟩,
    ⟨0x0ba3, ["aTAMIL LETTER NNAcTA"]⟩,
    ⟨0x0ba8, ["aTAMIL LETTER NAcNNNAcPA"]⟩,
    ⟨0x0bae, ["aTAMIL LETTER MAcYAcRAcRRAcLAcLLAcLLLAcVAcSHAcSSAcSAcHA"]⟩,
    ⟨0x0bbe, ["aTAMIL VOWEL SIGN AAdIdIIdUdUU"]⟩,
    ⟨0x0bc6, ["aTAMIL VOWEL SIGN EdEEdAI"]⟩,
    ⟨0x0bca, ["aTAMIL VOWEL SIGN OdOOdAUbSIGN VIRAMA"]⟩,
    ⟨0x0bd0, ["aTAMIL OM"]⟩,
    ⟨0x0bd7, ["aTAMIL AU LENGTH MARK"]⟩,
    ⟨0x0be6, ["aTAMIL DIGIT ZEROcONEcTWOcTHREEcFOURcFIVEcSIXcSEVENcEIGHTcNINEbNUMBER TEN",
      "cONE HUNDREDdTHOUSANDbDAY SIGNbMONTH SIGNbYEAR SIGNbDEBIT SIGNbCREDIT SIGN",
      "bAS ABOVE SIGNbRUPEE SIGNbNUMBER SIGN"]⟩,
    ⟨0x0c00, ["aTELUGU SIGN COMBINING CANDRABINDU ABOVEcCANDRABINDUcANUSVARAcVISARGA",
      "cCOMBINING ANUSVARA ABOVEbLETTER AcAAcIcIIcUcUUcVOCALIC RdL"]⟩,
    ⟨0x0c0e, ["aTELUGU LETTER EcEEcAI"]⟩,
    ⟨0x0c12, ["aTELUGU LETTER OcOOcAUcKAcKHAcGAcGHAcNGAcCAcCHAcJAcJHAcNYAcTTAcTTHAcDDAcDDHAcNNA",
      "cTAcTHAcDAcDHAcNA"]⟩,
    ⟨0x0c2a, ["aTELUGU LETTER PAcPHAcBAcBHAcMAcYAcRAcRRAcLAcLLAcLLLAcVAcSHAcSSAcSAcHA"]⟩,
    ⟨0x0c3c, ["aTELUGU SIGN NUKTAcAVAGRAHAbVOWEL SIGN AAdIdIIdUdUUdVOCALIC ReRR"]⟩,
    ⟨0x0c46, ["aTELUGU VOWEL SIGN EdEEdAI"]⟩]

def namesFrom0C4A : List NameRun :=
  [⟨0x0c4a, ["aTELUGU VOWEL SIGN OdOOdAUbSIGN VIRAMA"]⟩,
    ⟨0x0c55, ["aTELUGU LENGTH MARKbAI LENGTH MARK"]⟩,
    ⟨0x0c58, ["aTELUGU LETTER TSAcDZAcRRRA"]⟩,
    ⟨0x0c5d, ["aTELUGU LETTER NAKAARA POLLU"]⟩,
    ⟨0x0c60, ["aTELUGU LETTER VOCALIC RRdLLbVOWEL SIGN VOCALIC LeLL"]⟩,
    ⟨0x0c66, ["aTELUGU DIGIT ZEROcONEcTWOcTHREEcFOURcFIVEcSIXcSEVENcEIGHTcNINE"]⟩,
    ⟨0x0c77, ["aTELUGU SIGN SIDDHAMbFRACTION DIGIT ZERO FOR ODD POWERS OF FOUR",
      "dONE FOR ODD POWERS OF FOURdTWO FOR ODD POWERS OF FOURdTHREE FOR ODD POWERS OF FOUR",
      "dONE FOR EVEN POWERS OF FOURdTWO FOR EVEN POWERS OF FOURdTHREE FOR EVEN POWERS OF FOUR",
      "bSIGN TUUMUaKANNADA SIGN SPACING CANDRABINDUcCANDRABINDUcANUSVARAcVISARGAcSIDDHAM",
      "bLETTER AcAAcIcIIcUcUUcVOCALIC RdL"]⟩,
    ⟨0x0c8e, ["aKANNADA LETTER EcEEcAI"]⟩,
    ⟨0x0c92, ["aKANNADA LETTER OcOOcAUcKAcKHAcGAcGHAcNGAcCAcCHAcJAcJHAcNYAcTTAcTTHAcDDAcDDHAcNNA",
      "cTAcTHAcDAcDHAcNA"]⟩,
    ⟨0x0caa, ["aKANNADA LETTER PAcPHAcBAcBHAcMAcYAcRAcRRAcLAcLLA"]⟩,
    ⟨0x0cb5, ["aKANNADA LETTER VAcSHAcSSAcSAcHA"]⟩,
    ⟨0x0cbc, ["aKANNADA SIGN NUKTAcAVAGRAHAbVOWEL SIGN AAdIdIIdUdUUdVOCALIC ReRR"]⟩,
    ⟨0x0cc6, ["aKANNADA VOWEL SIGN EdEEdAI"]⟩,
    ⟨0x0cca, ["aKANNADA VOWEL SIGN OdOOdAUbSIGN VIRAMA"]⟩,
    ⟨0x0cd5, ["aKANNADA LENGTH MARKbAI LENGTH MARK"]⟩,
    ⟨0x0cdd, ["aKANNADA LETTER NAKAARA POLLUcFA"]⟩,
    ⟨0x0ce0, ["aKANNADA LETTER VOCALIC RRdLLbVOWEL SIGN VOCALIC LeLL"]⟩,
    ⟨0x0ce6, ["aKANNADA DIGIT ZEROcONEcTWOcTHREEcFOURcFIVEcSIXcSEVENcEIGHTcNINE"]⟩,
    ⟨0x0cf1, ["aKANNADA SIGN JIHVAMULIYAcUPADHMANIYA"]⟩,
    ⟨0x0d00, ["aMALAYALAM SIGN COMBINING ANUSVARA ABOVEcCANDRABINDUcANUSVARAcVISARGA",
      "bLETTER VEDIC ANUSVARAcAcAAcIcIIcUcUUcVOCALIC RdL"]⟩,
    ⟨0x0d0e, ["aMALAYALAM LETTER EcEEcAI"]⟩,
    ⟨0x0d12, ["aMALAYALAM LETTER OcOOcAUcKAcKHAcGAcGHAcNGAcCAcCHAcJAcJHAcNYAcTTAcTTHAcDDAcDDHA",
      "cNNAcTAcTHAcDAcDHAcNAcNNNAcPAcPHAcBAcBHAcMAcYAcRAcRRAcLAcLLAcLLLAcVAcSHAcSSAcSAcHAcTTTA",
      "bSIGN VERTICAL BAR VIRAMAcCIRCULAR VIRAMAcAVAGRAHAbVOWEL SIGN AAdIdIIdUdUUdVOCALIC ReRR"]⟩,
    ⟨0x0d46, ["aMALAYALAM VOWEL SIGN EdEEdAI"]⟩,
    ⟨0x0d4a, ["aMALAYALAM VOWEL SIGN OdOOdAUbSIGN VIRAMAbLETTER DOT REPHbSIGN PARA"]⟩,
    ⟨0x0d54, ["aMALAYALAM LETTER CHILLU MdYdLLLbAU LENGTH MARK",
      "bFRACTION ONE ONE-HUNDRED-AND-SIXTIETHdFORTIETHcTHREE EIGHTIETHScONE TWENTIETHdTENTH",
      "cTHREE TWENTIETHScONE FIFTHbLETTER ARCHAIC IIcVOCALIC RRdLLbVOWEL SIGN VOCALIC LeLL"]⟩,
    ⟨0x0d66, ["aMALAYALAM DIGIT ZEROcONEcTWOcTHREEcFOURcFIVEcSIXcSEVENcEIGHTcNINEbNUMBER TEN",
      "cONE HUNDREDdTHOUSANDbFRACTION ONE QUARTERdHALFcTHREE QUARTERScONE SIXTEENTHdEIGHTH",
      "cTHREE SIXTEENTHSbDATE MARKbLETTER CHILLU NNdNdRRdLdLLdK"]⟩,
    ⟨0x0d81, ["aSINHALA SIGN CANDRABINDUcANUSVARAYAcVISARGAYA"]⟩,
    ⟨0x0d85, ["aSINHALA LETTER AYANNAcAAYANNAcAEYANNAcAEEYANNAcIYANNAcIIYANNAcUYANNAcUUYANNA",
      "cIRUYANNAcIRUUYANNAcILUYANNAcILUUYANNAcEYANNAcEEYANNAcAIYANNAcOYANNAcOOYANNAcAUYANNA"]⟩,
    ⟨0x0d9a, ["aSINHALA LETTER ALPAPRAANA KAYANNAcMAHAAPRAANA KAYANNAcALPAPRAANA GAYANNA",
      "cMAHAAPRAANA GAYANNAcKANTAJA NAASIKYAYAcSANYAKA GAYANNAcALPAPRAANA CAYANNA",
      "cMAHAAPRAANA CAYANNAcALPAPRAANA JAYANNAcMAHAAPRAANA JAYANNAcTAALUJA NAASIKYAYA",
      "dSANYOOGA NAAKSIKYAYAcSANYAKA JAYANNAcALPAPRAANA TTAYANNAcMAHAAPRAANA TTAYANNA",
      "cALPAPRAANA DDAYANNAcMAHAAPRAANA DDAYANNAcMUURDHAJA NAYANNAcSANYAKA DDAYANNA",
      "cALPAPRAANA TAYANNAcMAHAAPRAANA TAYANNAcALPAPRAANA DAYANNAcMAHAAPRAANA DAYANNA",
      "cDANTAJA NAYANNA"]⟩,
    ⟨0x0db3, ["aSINHALA LETTER SANYAKA DAYANNAcALPAPRAANA PAYANNAcMAHAAPRAANA PAYANNA",
      "cALPAPRAANA BAYANNAcMAHAAPRAANA BAYANNAcMAYANNAcAMBA BAYANNAcYAYANNAcRAYANNA"]⟩,
    ⟨0x0dbd, ["aSINHALA LETTER DANTAJA LAYANNA"]⟩,
    ⟨0x0dc0, ["aSINHALA LETTER VAYANNAcTAALUJA SAYANNAcMUURDHAJA SAYANNAcDANTAJA SAYANNAcHAYANNA",
      "cMUURDHAJA LAYANNAcFAYANNA"]⟩,
    ⟨0x0dca, ["aSINHALA SIGN AL-LAKUNA"]⟩,
    ⟨0x0dcf, ["aSINHALA VOWEL SIGN AELA-PILLAdKETTI AEDA-PILLAdDIGA AEDA-PILLAdKETTI IS-PILLA",
      "dDIGA IS-PILLAdKETTI PAA-PILLA"]⟩,
    ⟨0x0dd6, ["aSINHALA VOWEL SIGN DIGA PAA-PILLA"]⟩,
    ⟨0x0dd8, ["aSINHALA VOWEL SIGN GAETTA-PILLAdKOMBUVAdDIGA KOMBUVAdKOMBU DEKA",
      "dKOMBUVA HAA AELA-PILLAfDIGA AELA-PILLAfGAYANUKITTAdGAYANUKITTA"]⟩,
    ⟨0x0de6, ["aSINHALA LITH DIGIT ZEROdONEdTWOdTHREEdFOURdFIVEdSIXdSEVENdEIGHTdNINE"]⟩,
    ⟨0x0df2, ["aSINHALA VOWEL SIGN DIGA GAETTA-PILLAeGAYANUKITTAbPUNCTUATION KUNDDALIYA"]⟩,
    ⟨0x0e01, ["aTHAI CHARACTER KO KAIcKHO KHAIdKHUATdKHWAIdKHONdRAKHANGcNGO NGUcCHO CHANdCHING",
      "dCHANGcSO SOcCHO CHOEcYO YINGcDO CHADAcTO PATAKcTHO THANdNANGMONTHOdPHUTHAOcNO NEN",
      "cDO DEKcTO TAOcTHO THUNGdTHAHANdTHONGcNO NUcBO BAIMAIcPO PLAcPHO PHUNGcFO FAcPHO PHAN",
      "cFO FANcPHO SAMPHAOcMO MAcYO YAKcRO RUAcRUcLO LINGcLUcWO WAENcSO SALAdRUSIdSUAcHO HIP",
      "cLO CHULAcO ANGcHO NOKHUKcPAIYANNOIcSARA AcMAI HAN-AKATcSARA AAdAMdIdIIdUEdUEEdUdUU",
      "cPHINTHU"]⟩,
    ⟨0x0e3f, ["aTHAI CURRENCY SYMBOL BAHTbCHARACTER SARA EdAEdOdAI MAIMUANeMAIMALAIcLAKKHANGYAO",
      "cMAIYAMOKcMAITAIKHUcMAI EKdTHOdTRIdCHATTAWAcTHANTHAKHATcNIKHAHITcYAMAKKANcFONGMAN",
      "bDIGIT ZEROcONEcTWOcTHREEcFOURcFIVEcSIXcSEVENcEIGHTcNINEbCHARACTER ANGKHANKHUcKHOMUT"]⟩]

def namesFrom0E81 : List NameRun :=
  [⟨0x0e81, ["aLAO LETTER KOcKHO SUNG"]⟩,
    ⟨0x0e84, ["aLAO LETTER KHO TAM"]⟩,
    ⟨0x0e86, ["aLAO LETTER PALI GHAcNGOcCOcPALI CHAcSO TAM"]⟩,
    ⟨0x0e8c, ["aLAO LETTER PALI JHAcNYOcPALI NYAdTTAdTTHAdDDAdDDHAdNNAcDOcTOcTHO SUNGdTAM",
      "cPALI DHAcNOcBOcPOcPHO SUNGcFO TAMcPHO TAMcFO SUNGcPALI BHAcMOcYOcLO LING"]⟩,
    ⟨0x0ea5, ["aLAO LETTER LO LOOT"]⟩,
    ⟨0x0ea7, ["aLAO LETTER WOcSANSKRIT SHAdSSAcSO SUNGcHO SUNGcPALI LLAcOcHO TAMbELLIPSIS",
      "bVOWEL SIGN AdMAI KANdAAdAMdIdIIdYdYYdUdUUbSIGN PALI VIRAMAbVOWEL SIGN MAI KON",
      "bSEMIVOWEL SIGN LOdNYO"]⟩,
    ⟨0x0ec0, ["aLAO VOWEL SIGN EdEIdOdAYdAI"]⟩,
    ⟨0x0ec6, ["aLAO KO LA"]⟩,
    ⟨0x0ec8, ["aLAO TONE MAI EKdTHOdTIdCATAWAbCANCELLATION MARKbNIGGAHITA"]⟩,
    ⟨0x0ed0, ["aLAO DIGIT ZEROcONEcTWOcTHREEcFOURcFIVEcSIXcSEVENcEIGHTcNINE"]⟩,
    ⟨0x0edc, ["aLAO HO NOcMObLETTER KHMU GOdNYO"]⟩,
    ⟨0x0f00, ["aTIBETAN SYLLABLE OMbMARK GTER YIG MGO TRUNCATED Af-UM RNAM BCAD MAgGTER TSHEG MA",
      "cINITIAL YIG MGO MDUN MAcCLOSING YIG MGO SGAB MAcCARET YIG MGO PHUR SHAD MA",
      "cYIG MGO TSHEG SHAD MAcSBRUL SHADcBSKUR YIG MGOcBKA- SHOG YIG MGOcINTERSYLLABIC TSHEG",
      "cDELIMITER TSHEG BSTARcSHADcNYIS SHADcTSHEG SHADcNYIS TSHEG SHADcRIN CHEN SPUNGS SHAD",
      "cRGYA GRAM SHADcCARET -DZUD RTAGS ME LONG CANcGTER TSHEGbLOGOTYPE SIGN CHAD RTAGS",
      "dLHAG RTAGSbASTROLOGICAL SIGN SGRA GCAN -CHAR RTAGSd-KHYUD PAdSDONG TSHUGS",
      "bSIGN RDEL DKAR GCIGeGNYISeGSUMdNAG GCIGeGNYISdDKAR RDEL NAGbDIGIT ZEROcONEcTWOcTHREE",
      "cFOURcFIVEcSIXcSEVENcEIGHTcNINEcHALF ONEdTWOdTHREEdFOURdFIVEdSIXdSEVENdEIGHTdNINEdZERO",
      "bMARK BSDUS RTAGScNGAS BZUNG NYI ZLAcCARET -DZUD RTAGS BZHI MIG CAN",
      "cNGAS BZUNG SGOR RTAGScCHE MGOcTSA -PHRUcGUG RTAGS GYONeGYAScANG KHANG GYONeGYAS",
      "bSIGN YAR TSHEScMAR TSHESbLETTER KAcKHAcGAcGHAcNGAcCAcCHAcJA"]⟩,
    ⟨0x0f49, ["aTIBETAN LETTER NYAcTTAcTTHAcDDAcDDHAcNNAcTAcTHAcDAcDHAcNAcPAcPHAcBAcBHAcMAcTSA",
      "cTSHAcDZAcDZHAcWAcZHAcZAc-AcYAcRAcLAcSHAcSSAcSAcHAcAcKSSAcFIXED-FORM RAcKKAcRRA"]⟩,
    ⟨0x0f71, ["aTIBETAN VOWEL SIGN AAdIdIIdUdUUdVOCALIC ReRReLeLLdEdEEdOdOObSIGN RJES SU NGA RO",
      "cRNAM BCADbVOWEL SIGN REVERSED IeIIbSIGN NYI ZLA NAA DAcSNA LDANbMARK HALANTAcPALUTA",
      "bSIGN LCI RTAGScYANG RTAGScLCE TSA CANcMCHU CANcGRU CAN RGYINGSdMED RGYINGS",
      "cINVERTED MCHU CANbSUBJOINED SIGN LCE TSA CANdMCHU CANdINVERTED MCHU CANcLETTER KAdKHA",
      "dGAdGHAdNGAdCAdCHAdJA"]⟩,
    ⟨0x0f99, ["aTIBETAN SUBJOINED LETTER NYAdTTAdTTHAdDDAdDDHAdNNAdTAdTHAdDAdDHAdNAdPAdPHAdBA",
      "dBHAdMAdTSAdTSHAdDZAdDZHAdWAdZHAdZAd-AdYAdRAdLAdSHAdSSAdSAdHAdAdKSSAdFIXED-FORM WAeYA",
      "eRA"]⟩,
    ⟨0x0fbe, ["aTIBETAN KU RU KHAeBZHI MIG CANbCANTILLATION SIGN HEAVY BEATdLIGHT BEATdCANG TE-U",
      "dSBUB -CHALbSYMBOL DRIL BUcRDO RJEcPADMA GDANcRDO RJE RGYA GRAMcPHUR PAcNOR BU",
      "eNYIS -KHYILeGSUM -KHYILeBZHI -KHYIL"]⟩,
    ⟨0x0fce, ["aTIBETAN SIGN RDEL NAG RDEL DKAReGSUMbMARK BSKA- SHOG GI MGO RGYAN",
      "cMNYAM YIG GI MGO RGYANcNYIS TSHEGcINITIAL BRDA RNYING YIG MGO MDUN MA",
      "cCLOSING BRDA RNYING YIG MGO SGAB MAaRIGHT-FACING SVASTI SIGNaLEFT-FACING SVASTI SIGN",
      "aRIGHT-FACING SVASTI SIGN WITH DOTSaLEFT-FACING SVASTI SIGN WITH DOTS",
      "aTIBETAN MARK LEADING MCHAN RTAGScTRAILING MCHAN RTAGS"]⟩,
    ⟨0x1000, ["aMYANMAR LETTER KAcKHAcGAcGHAcNGAcCAcCHAcJAcJHAcNYAcNNYAcTTAcTTHAcDDAcDDHAcNNAcTA",
      "cTHAcDAcDHAcNAcPAcPHAcBAcBHAcMAcYAcRAcLAcWAcSAcHAcLLAcAcSHAN AcIcIIcUcUUcEcMON EcOcAU",
      "bVOWEL SIGN TALL AAdAAdIdIIdUdUUdEdAIdMON IIeOdE ABOVEbSIGN ANUSVARAcDOT BELOWcVISARGA",
      "cVIRAMAcASATbCONSONANT SIGN MEDIAL YAeRAeWAeHAbLETTER GREAT SAbDIGIT ZEROcONEcTWOcTHREE",
      "cFOURcFIVEcSIXcSEVENcEIGHTcNINEbSIGN LITTLE SECTIONcSECTIONbSYMBOL LOCATIVEcCOMPLETED",
      "cAFOREMENTIONEDcGENITIVEbLETTER SHAcSSAcVOCALIC RdRRdLdLLbVOWEL SIGN VOCALIC ReRReLeLL",
      "bLETTER MON NGAdJHAdBBAdBBEbCONSONANT SIGN MON MEDIAL NAfMAfLAbLETTER SGAW KAREN SHA",
      "bVOWEL SIGN SGAW KAREN EUbTONE MARK SGAW KAREN HATHIfKE PHO",
      "bLETTER WESTERN PWO KAREN THAfPWAbVOWEL SIGN WESTERN PWO KAREN EUgUE",
      "bSIGN WESTERN PWO KAREN TONE-1fTONE-2fTONE-3fTONE-4fTONE-5bLETTER EASTERN PWO KAREN NNA",
      "fYWAfGHWAbVOWEL SIGN GEBA KAREN IdKAYAH OEeUeEEbLETTER SHAN KAdKHAdGAdCAdZAdNYAdDAdNA",
      "dPHAdFAdBAdTHAdHAbCONSONANT SIGN SHAN MEDIAL WAbVOWEL SIGN SHAN AAeEfABOVEeFINAL Y",
      "bSIGN SHAN TONE-2dTONE-3dTONE-5dTONE-6dCOUNCIL TONE-2eTONE-3eEMPHATIC TONE",
      "bLETTER RUMAI PALAUNG FAbSIGN RUMAI PALAUNG TONE-5bSHAN DIGIT ZEROdONEdTWOdTHREEdFOUR",
      "dFIVEdSIXdSEVENdEIGHTdNINEbSIGN KHAMTI TONE-1dTONE-3bVOWEL SIGN AITON AeAI",
      "bSYMBOL SHAN ONEdEXCLAMATIONaGEORGIAN CAPITAL LETTER ANdBANdGANdDONdENdVINdZENdTANdIN",
      "dKANdLASdMANdNARdONdPARdZHARdRAEdSANdTARdUNdPHARdKHARdGHANdQARdSHINdCHINdCANdJILdCIL",
      "dCHARdXANdJHANdHAEdHEdHIEdWEdHARdHOE"]⟩,
    ⟨0x10c7, ["aGEORGIAN CAPITAL LETTER YN"]⟩,
    ⟨0x10cd, ["aGEORGIAN CAPITAL LETTER AEN"]⟩,
    ⟨0x10d0, ["aGEORGIAN LETTER ANcBANcGANcDONcENcVINcZENcTANcINcKANcLAScMANcNARcONcPARcZHARcRAE",
      "cSANcTARcUNcPHARcKHARcGHANcQARcSHINcCHINcCANcJILcCILcCHARcXANcJHANcHAEcHEcHIEcWEcHAR",
      "cHOEcFIcYNcELIFIcTURNED GANcAINbPARAGRAPH SEPARATORaMODIFIER LETTER GEORGIAN NAR",
      "aGEORGIAN LETTER AENcHARD SIGNcLABIAL SIGNaHANGUL CHOSEONG KIYEOKcSSANGKIYEOKcNIEUN",
      "cTIKEUTcSSANGTIKEUTcRIEULcMIEUMcPIEUPcSSANGPIEUPcSIOScSSANGSIOScIEUNGcCIEUCcSSANGCIEUC",
      "cCHIEUCHcKHIEUKHcTHIEUTHcPHIEUPHcHIEUHcNIEUN-KIYEOKcSSANGNIEUNcNIEUN-TIKEUTcNIEUN-PIEUP",
      "cTIKEUT-KIYEOKcRIEUL-NIEUNcSSANGRIEULcRIEUL-HIEUHcKAPYEOUNRIEULcMIEUM-PIEUP",
      "cKAPYEOUNMIEUMcPIEUP-KIYEOKcPIEUP-NIEUNcPIEUP-TIKEUTcPIEUP-SIOScPIEUP-SIOS-KIYEOK",
      "cPIEUP-SIOS-TIKEUTcPIEUP-SIOS-PIEUPcPIEUP-SSANGSIOScPIEUP-SIOS-CIEUCcPIEUP-CIEUC",
      "cPIEUP-CHIEUCHcPIEUP-THIEUTHcPIEUP-PHIEUPHcKAPYEOUNPIEUPcKAPYEOUNSSANGPIEUPcSIOS-KIYEOK",
      "cSIOS-NIEUNcSIOS-TIKEUTcSIOS-RIEULcSIOS-MIEUMcSIOS-PIEUPcSIOS-PIEUP-KIYEOK",
      "cSIOS-SSANGSIOScSIOS-IEUNGcSIOS-CIEUCcSIOS-CHIEUCHcSIOS-KHIEUKHcSIOS-THIEUTH",
      "cSIOS-PHIEUPHcSIOS-HIEUHcCHITUEUMSIOScCHITUEUMSSANGSIOScCEONGCHIEUMSIOS",
      "cCEONGCHIEUMSSANGSIOScPANSIOScIEUNG-KIYEOKcIEUNG-TIKEUTcIEUNG-MIEUMcIEUNG-PIEUP",
      "cIEUNG-SIOScIEUNG-PANSIOScSSANGIEUNGcIEUNG-CIEUCcIEUNG-CHIEUCHcIEUNG-THIEUTH",
      "cIEUNG-PHIEUPHcYESIEUNGcCIEUC-IEUNGcCHITUEUMCIEUCcCHITUEUMSSANGCIEUCcCEONGCHIEUMCIEUC",
      "cCEONGCHIEUMSSANGCIEUCcCHIEUCH-KHIEUKHcCHIEUCH-HIEUHcCHITUEUMCHIEUCHcCEONGCHIEUMCHIEUCH",
      "cPHIEUPH-PIEUPcKAPYEOUNPHIEUPHcSSANGHIEUHcYEORINHIEUHcKIYEOK-TIKEUTcNIEUN-SIOS",
      "cNIEUN-CIEUCcNIEUN-HIEUHcTIKEUT-RIEULcFILLERbJUNGSEONG FILLERcAcAEcYAcYAEcEOcEcYEOcYEcO",
      "cWAcWAEcOEcYOcUcWEOcWEcWIcYUcEUcYIcIcA-OcA-UcYA-OcYA-YOcEO-OcEO-UcEO-EUcYEO-OcYEO-U",
      "cO-EOcO-EcO-YEcO-OcO-UcYO-YAcYO-YAEcYO-YEOcYO-OcYO-IcU-AcU-AEcU-EO-EUcU-YEcU-UcYU-A",
      "cYU-EOcYU-EcYU-YEOcYU-YEcYU-UcYU-IcEU-UcEU-EUcYI-UcI-AcI-YAcI-OcI-UcI-EUcI-ARAEAcARAEA",
      "cARAEA-EOcARAEA-UcARAEA-IcSSANGARAEAcA-EUcYA-UcYEO-YAcO-YAcO-YAEbJONGSEONG KIYEOK",
      "cSSANGKIYEOKcKIYEOK-SIOScNIEUNcNIEUN-CIEUCcNIEUN-HIEUHcTIKEUTcRIEULcRIEUL-KIYEOK",
      "cRIEUL-MIEUMcRIEUL-PIEUPcRIEUL-SIOScRIEUL-THIEUTHcRIEUL-PHIEUPHcRIEUL-HIEUHcMIEUMcPIEUP",
      "cPIEUP-SIOScSIOScSSANGSIOScIEUNGcCIEUCcCHIEUCHcKHIEUKHcTHIEUTHcPHIEUPHcHIEUH",
      "cKIYEOK-RIEULcKIYEOK-SIOS-KIYEOKcNIEUN-KIYEOKcNIEUN-TIKEUTcNIEUN-SIOScNIEUN-PANSIOS",
      "cNIEUN-THIEUTHcTIKEUT-KIYEOKcTIKEUT-RIEULcRIEUL-KIYEOK-SIOScRIEUL-NIEUNcRIEUL-TIKEUT",
      "cRIEUL-TIKEUT-HIEUHcSSANGRIEULcRIEUL-MIEUM-KIYEOKcRIEUL-MIEUM-SIOScRIEUL-PIEUP-SIOS",
      "cRIEUL-PIEUP-HIEUHcRIEUL-KAPYEOUNPIEUPcRIEUL-SSANGSIOScRIEUL-PANSIOScRIEUL-KHIEUKH",
      "cRIEUL-YEORINHIEUHcMIEUM-KIYEOKcMIEUM-RIEULcMIEUM-PIEUPcMIEUM-SIOScMIEUM-SSANGSIOS",
      "cMIEUM-PANSIOScMIEUM-CHIEUCHcMIEUM-HIEUHcKAPYEOUNMIEUMcPIEUP-RIEULcPIEUP-PHIEUPH",
      "cPIEUP-HIEUHcKAPYEOUNPIEUPcSIOS-KIYEOKcSIOS-TIKEUTcSIOS-RIEULcSIOS-PIEUPcPANSIOS",
      "cIEUNG-KIYEOKcIEUNG-SSANGKIYEOKcSSANGIEUNGcIEUNG-KHIEUKHcYESIEUNGcYESIEUNG-SIOS",
      "cYESIEUNG-PANSIOScPHIEUPH-PIEUPcKAPYEOUNPHIEUPHcHIEUH-NIEUNcHIEUH-RIEULcHIEUH-MIEUM",
      "cHIEUH-PIEUPcYEORINHIEUHcKIYEOK-NIEUNcKIYEOK-PIEUPcKIYEOK-CHIEUCHcKIYEOK-KHIEUKH",
      "cKIYEOK-HIEUHcSSANGNIEUNaETHIOPIC SYLLABLE HAcHUcHIcHAAcHEEcHEcHOcHOAcLAcLUcLIcLAAcLEE",
      "cLEcLOcLWAcHHAcHHUcHHIcHHAAcHHEEcHHEcHHOcHHWAcMAcMUcMIcMAAcMEEcMEcMOcMWAcSZAcSZUcSZI",
      "cSZAAcSZEEcSZEcSZOcSZWAcRAcRUcRIcRAAcREEcREcROcRWAcSAcSUcSIcSAAcSEEcSEcSOcSWAcSHAcSHU",
      "cSHIcSHAAcSHEEcSHEcSHOcSHWAcQAcQUcQIcQAAcQEEcQEcQOcQOAcQWA"]⟩,
    ⟨0x124a, ["aETHIOPIC SYLLABLE QWIcQWAAcQWEEcQWE"]⟩,
    ⟨0x1250, ["aETHIOPIC SYLLABLE QHAcQHUcQHIcQHAAcQHEEcQHEcQHO"]⟩,
    ⟨0x1258, ["aETHIOPIC SYLLABLE QHWA"]⟩,
    ⟨0x125a, ["aETHIOPIC SYLLABLE QHWIcQHWAAcQHWEEcQHWE"]⟩,
    ⟨0x1260, ["aETHIOPIC SYLLABLE BAcBUcBIcBAAcBEEcBEcBOcBWAcVAcVUcVIcVAAcVEEcVEcVOcVWAcTAcTUcTI",
      "cTAAcTEEcTEcTOcTWAcCAcCUcCIcCAAcCEEcCEcCOcCWAcXAcXUcXIcXAAcXEEcXEcXOcXOAcXWA"]⟩,
    ⟨0x128a, ["aETHIOPIC SYLLABLE XWIcXWAAcXWEEcXWE"]⟩,
    ⟨0x1290, ["aETHIOPIC SYLLABLE NAcNUcNIcNAAcNEEcNEcNOcNWAcNYAcNYUcNYIcNYAAcNYEEcNYEcNYOcNYWA",
      "cGLOTTAL AdUdIdAAdEEdEdOdWAcKAcKUcKIcKAAcKEEcKEcKOcKOAcKWA"]⟩,
    ⟨0x12b2, ["aETHIOPIC SYLLABLE KWIcKWAAcKWEEcKWE"]⟩,
    ⟨0x12b8, ["aETHIOPIC SYLLABLE KXAcKXUcKXIcKXAAcKXEEcKXEcKXO"]⟩,
    ⟨0x12c0, ["aETHIOPIC SYLLABLE KXWA"]⟩,
    ⟨0x12c2, ["aETHIOPIC SYLLABLE KXWIcKXWAAcKXWEEcKXWE"]⟩,
    ⟨0x12c8, ["aETHIOPIC SYLLABLE WAcWUcWIcWAAcWEEcWEcWOcWOAcPHARYNGEAL AdUdIdAAdEEdEdO"]⟩,
    ⟨0x12d8, ["aETHIOPIC SYLLABLE ZAcZUcZIcZAAcZEEcZEcZOcZWAcZHAcZHUcZHIcZHAAcZHEEcZHEcZHOcZHWA",
      "cYAcYUcYIcYAAcYEEcYEcYOcYOAcDAcDUcDIcDAAcDEEcDEcDOcDWAcDDAcDDUcDDIcDDAAcDDEEcDDEcDDO",
      "cDDWAcJAcJUcJIcJAAcJEEcJEcJOcJWAcGAcGUcGIcGAAcGEEcGEcGOcGOAcGWA"]⟩]

def namesFrom1312 : List NameRun :=
  [⟨0x1312, ["aETHIOPIC SYLLABLE GWIcGWAAcGWEEcGWE"]⟩,
    ⟨0x1318, ["aETHIOPIC SYLLABLE GGAcGGUcGGIcGGAAcGGEEcGGEcGGOcGGWAAcTHAcTHUcTHIcTHAAcTHEEcTHE",
      "cTHOcTHWAcCHAcCHUcCHIcCHAAcCHEEcCHEcCHOcCHWAcPHAcPHUcPHIcPHAAcPHEEcPHEcPHOcPHWAcTSAcTSU",
      "cTSIcTSAAcTSEEcTSEcTSOcTSWAcTZAcTZUcTZIcTZAAcTZEEcTZEcTZOcTZOAcFAcFUcFIcFAAcFEEcFEcFO",
      "cFWAcPAcPUcPIcPAAcPEEcPEcPOcPWAcRYAcMYAcFYA"]⟩,
    ⟨0x135d, ["aETHIOPIC COMBINING GEMINATION AND VOWEL LENGTH MARKcVOWEL LENGTH MARK",
      "cGEMINATION MARKbSECTION MARKbWORDSPACEbFULL STOPbCOMMAbSEMICOLONbCOLONbPREFACE COLON",
      "bQUESTION MARKbPARAGRAPH SEPARATORbDIGIT ONEcTWOcTHREEcFOURcFIVEcSIXcSEVENcEIGHTcNINE",
      "bNUMBER TENcTWENTYcTHIRTYcFORTYcFIFTYcSIXTYcSEVENTYcEIGHTYcNINETYcHUNDREDcTEN THOUSAND"]⟩,
    ⟨0x1380, ["aETHIOPIC SYLLABLE SEBATBEIT MWAcMWIcMWEEcMWEcSEBATBEIT BWAcBWIcBWEEcBWE",
      "cSEBATBEIT FWAcFWIcFWEEcFWEcSEBATBEIT PWAcPWIcPWEEcPWEbTONAL MARK YIZETdDERETdRIKRIK",
      "dSHORT RIKRIKdDIFATdKENATdCHIRETdHIDETdDERET-HIDETdKURT"]⟩,
    ⟨0x13a0, ["aCHEROKEE LETTER AcEcIcOcUcVcGAcKAcGEcGIcGOcGUcGVcHAcHEcHIcHOcHUcHVcLAcLEcLIcLO",
      "cLUcLVcMAcMEcMIcMOcMUcNAcHNAcNAHcNEcNIcNOcNUcNVcQUAcQUEcQUIcQUOcQUUcQUVcSAcScSEcSIcSO",
      "cSUcSVcDAcTAcDEcTEcDIcTIcDOcDUcDVcDLAcTLAcTLEcTLIcTLOcTLUcTLVcTSAcTSEcTSIcTSOcTSUcTSV",
      "cWAcWEcWIcWOcWUcWVcYAcYEcYIcYOcYUcYVcMV"]⟩,
    ⟨0x13f8, ["aCHEROKEE SMALL LETTER YEdYIdYOdYUdYVdMV"]⟩,
    ⟨0x1400, ["aCANADIAN SYLLABICS HYPHENcEcAAIcIcIIcOcOOcY-CREE OOcCARRIER EEdIcAcAAcWE",
      "cWEST-CREE WEcWIcWEST-CREE WIcWIIcWEST-CREE WIIcWOcWEST-CREE WOcWOOcWEST-CREE WOO",
      "cNASKAPI WOOcWAcWEST-CREE WAcWAAcWEST-CREE WAAcNASKAPI WAAcAIcY-CREE WcGLOTTAL STOP",
      "cFINAL ACUTEdGRAVEdBOTTOM HALF RINGdTOP HALF RINGdRIGHT HALF RINGdRINGdDOUBLE ACUTE",
      "eSHORT VERTICAL STROKESdMIDDLE DOTdSHORT HORIZONTAL STROKEdPLUSdDOWN TACKcENcINcONcAN",
      "cPEcPAAIcPIcPIIcPOcPOOcY-CREE POOcCARRIER HEEdHIcPAcPAAcPWEcWEST-CREE PWEcPWI",
      "cWEST-CREE PWIcPWIIcWEST-CREE PWIIcPWOcWEST-CREE PWOcPWOOcWEST-CREE PWOOcPWA",
      "cWEST-CREE PWAcPWAAcWEST-CREE PWAAcY-CREE PWAAcPcWEST-CREE PcCARRIER HcTEcTAAIcTIcTII",
      "cTOcTOOcY-CREE TOOcCARRIER DEEdDIcTAcTAAcTWEcWEST-CREE TWEcTWIcWEST-CREE TWIcTWII",
      "cWEST-CREE TWIIcTWOcWEST-CREE TWOcTWOOcWEST-CREE TWOOcTWAcWEST-CREE TWAcTWAA",
      "cWEST-CREE TWAAcNASKAPI TWAAcTcTTEcTTIcTTOcTTAcKEcKAAIcKIcKIIcKOcKOOcY-CREE KOOcKAcKAA",
      "cKWEcWEST-CREE KWEcKWIcWEST-CREE KWIcKWIIcWEST-CREE KWIIcKWOcWEST-CREE KWOcKWOO",
      "cWEST-CREE KWOOcKWAcWEST-CREE KWAcKWAAcWEST-CREE KWAAcNASKAPI KWAAcKcKW",
      "cSOUTH-SLAVEY KEHdKIHdKOHdKAHcCEcCAAIcCIcCIIcCOcCOOcY-CREE COOcCAcCAAcCWEcWEST-CREE CWE",
      "cCWIcWEST-CREE CWIcCWIIcWEST-CREE CWIIcCWOcWEST-CREE CWOcCWOOcWEST-CREE CWOOcCWA",
      "cWEST-CREE CWAcCWAAcWEST-CREE CWAAcNASKAPI CWAAcCcSAYISI THcMEcMAAIcMIcMIIcMOcMOO",
      "cY-CREE MOOcMAcMAAcMWEcWEST-CREE MWEcMWIcWEST-CREE MWIcMWIIcWEST-CREE MWIIcMWO",
      "cWEST-CREE MWOcMWOOcWEST-CREE MWOOcMWAcWEST-CREE MWAcMWAAcWEST-CREE MWAAcNASKAPI MWAAcM",
      "cWEST-CREE McMHcATHAPASCAN McSAYISI McNEcNAAIcNIcNIIcNOcNOOcY-CREE NOOcNAcNAAcNWE",
      "cWEST-CREE NWEcNWAcWEST-CREE NWAcNWAAcWEST-CREE NWAAcNASKAPI NWAAcNcCARRIER NGcNHcLE",
      "cLAAIcLIcLIIcLOcLOOcY-CREE LOOcLAcLAAcLWEcWEST-CREE LWEcLWIcWEST-CREE LWIcLWII",
      "cWEST-CREE LWIIcLWOcWEST-CREE LWOcLWOOcWEST-CREE LWOOcLWAcWEST-CREE LWAcLWAA",
      "cWEST-CREE LWAAcLcWEST-CREE LcMEDIAL LcSEcSAAIcSIcSIIcSOcSOOcY-CREE SOOcSAcSAAcSWE",
      "cWEST-CREE SWEcSWIcWEST-CREE SWIcSWIIcWEST-CREE SWIIcSWOcWEST-CREE SWOcSWOO",
      "cWEST-CREE SWOOcSWAcWEST-CREE SWAcSWAAcWEST-CREE SWAAcNASKAPI SWAAcScATHAPASCAN ScSW",
      "cBLACKFOOT ScMOOSE-CREE SKcNASKAPI SKWdS-WdSPWAdSTWAdSKWAdSCWAcSHEcSHIcSHIIcSHOcSHOO",
      "cSHAcSHAAcSHWEcWEST-CREE SHWEcSHWIcWEST-CREE SHWIcSHWIIcWEST-CREE SHWIIcSHWO",
      "cWEST-CREE SHWOcSHWOOcWEST-CREE SHWOOcSHWAcWEST-CREE SHWAcSHWAAcWEST-CREE SHWAAcSHcYE",
      "cYAAIcYIcYIIcYOcYOOcY-CREE YOOcYAcYAAcYWEcWEST-CREE YWEcYWIcWEST-CREE YWIcYWII",
      "cWEST-CREE YWIIcYWOcWEST-CREE YWOcYWOOcWEST-CREE YWOOcYWAcWEST-CREE YWAcYWAA",
      "cWEST-CREE YWAAcNASKAPI YWAAcYcBIBLE-CREE YcWEST-CREE YcSAYISI YIcREcR-CREE RE",
      "cWEST-CREE LEcRAAIcRIcRIIcROcROOcWEST-CREE LOcRAcRAAcWEST-CREE LAcRWAAcWEST-CREE RWAAcR",
      "cWEST-CREE RcMEDIAL RcFEcFAAIcFIcFIIcFOcFOOcFAcFAAcFWAAcWEST-CREE FWAAcFcTHEcN-CREE THE",
      "cTHIcN-CREE THIcTHIIcN-CREE THIIcTHOcTHOOcTHAcTHAAcTHWAAcWEST-CREE THWAAcTHcTTHEcTTHI",
      "cTTHOcTTHAcTTHcTYEcTYIcTYOcTYAcNUNAVIK HEdHIdHIIdHOdHOOdHAdHAAdHcNUNAVUT HcHKcQAAIcQI",
      "cQIIcQOcQOOcQAcQAAcQcTLHEcTLHIcTLHOcTLHAcWEST-CREE REdRIdROdRAcNGAAIcNGIcNGIIcNGOcNGOO",
      "cNGAcNGAAcNGcNNGcSAYISI SHEdSHIdSHOdSHAcWOODS-CREE THEdTHIdTHOdTHAdTHcLHIcLHIIcLHOcLHOO",
      "cLHAcLHAAcLHcTH-CREE THEdTHIdTHIIdTHOdTHOOdTHAdTHAAdTHcAIVILIK BcBLACKFOOT EdIdOdAdWE",
      "dWIdWOdWAdNEdNIdNOdNAdKEdKIdKOdKAcSAYISI HEdHIdHOdHAcCARRIER GHUdGHOdGHEdGHEEdGHIdGHA",
      "dRUdROdREdREEdRIdRAdWUdWOdWEdWEEdWIdWAdHWUdHWOdHWEdHWEEdHWIdHWAdTHUdTHOdTHEdTHEEdTHI",
      "dTHAdTTUdTTOdTTEdTTEEdTTIdTTAdPUdPOdPEdPEEdPIdPAdPdGUdGOdGEdGEEdGIdGAdKHUdKHOdKHEdKHEE",
      "dKHIdKHAdKKUdKKOdKKEdKKEEdKKIdKKAdKKdNUdNOdNEdNEEdNIdNAdMUdMOdMEdMEEdMIdMAdYUdYOdYEdYEE",
      "dYIdYAdJUcSAYISI JUcCARRIER JOdJEdJEEdJIcSAYISI JIcCARRIER JAdJJUdJJOdJJEdJJEEdJJIdJJA",
      "dLUdLOdLEdLEEdLIdLAdDLUdDLOdDLEdDLEEdDLIdDLAdLHUdLHOdLHEdLHEEdLHIdLHAdTLHUdTLHOdTLHE",
      "dTLHEEdTLHIdTLHAdTLUdTLOdTLEdTLEEdTLIdTLAdZUdZOdZEdZEEdZIdZAdZdINITIAL ZdDZUdDZOdDZE",
      "dDZEEdDZIdDZAdSUdSOdSEdSEEdSIdSAdSHUdSHOdSHEdSHEEdSHIdSHAdSHdTSUdTSOdTSEdTSEEdTSIdTSA",
      "dCHUdCHOdCHEdCHEEdCHIdCHAdTTSUdTTSOdTTSEdTTSEEdTTSIdTTSAcCHI SIGNcFULL STOPcQAIcNGAI",
      "cNNGIcNNGIIcNNGOcNNGOOcNNGAcNNGAAcWOODS-CREE THWEEdTHWIdTHWIIdTHWOdTHWOOdTHWAdTHWAA",
      "dFINAL THcBLACKFOOT WaOGHAM SPACE MARKbLETTER BEITHcLUIScFEARNcSAILcNIONcUATHcDAIR",
      "cTINNEcCOLLcCEIRTcMUINcGORTcNGEADALcSTRAIFcRUIScAILMcONNcURcEADHADHcIODHADHcEABHADHcOR",
      "cUILLEANNcIFINcEAMHANCHOLLcPEITHbFEATHER MARKbREVERSED FEATHER MARK"]⟩,
    ⟨0x16a0, ["aRUNIC LETTER FEHU FEOH FE FcVcURUZ UR UcYRcYcWcTHURISAZ THURS THORNcETHcANSUZ A",
      "cOS OcAC AcAESCcLONG-BRANCH-OSS OcSHORT-TWIG-OSS OcOcOEcONcRAIDO RAD REID RcKAUNAcCEN",
      "cKAUN KcGcENGcGEBO GYFU GcGARcWUNJO WYNN WcHAGLAZ HcHAEGL HcLONG-BRANCH-HAGALL H",
      "cSHORT-TWIG-HAGALL HcNAUDIZ NYD NAUD NcSHORT-TWIG-NAUD NcDOTTED-NcISAZ IS ISS IcE",
      "cJERAN JcGERcLONG-BRANCH-AR AEcSHORT-TWIG-AR AcIWAZ EOHcPERTHO PEORTH PcALGIZ EOLHX",
      "cSOWILO ScSIGEL LONG-BRANCH-SOL ScSHORT-TWIG-SOL ScCcZcTIWAZ TIR TYR TcSHORT-TWIG-TYR T",
      "cDcBERKANAN BEORC BJARKAN BcSHORT-TWIG-BJARKAN BcDOTTED-PcOPEN-PcEHWAZ EH E",
      "cMANNAZ MAN McLONG-BRANCH-MADR McSHORT-TWIG-MADR McLAUKAZ LAGU LOGR LcDOTTED-LcINGWAZ",
      "cINGcDAGAZ DAEG DcOTHALAN ETHEL OcEARcIORcCWEORTHcCALCcCEALCcSTANcLONG-BRANCH-YR",
      "cSHORT-TWIG-YRcICELANDIC-YRcQcXbSINGLE PUNCTUATIONbMULTIPLE PUNCTUATION",
      "bCROSS PUNCTUATIONbARLAUG SYMBOLbTVIMADUR SYMBOLbBELGTHOR SYMBOLbLETTER KcSHcOO",
      "cFRANKS CASKET OSeISeEHeACeAESC"]⟩,
    ⟨0x1700, ["aTAGALOG LETTER AcIcUcKAcGAcNGAcTAcDAcNAcPAcBAcMAcYAcRAcLAcWAcSAcHAbVOWEL SIGN I",
      "dUbSIGN VIRAMAcPAMUDPOD"]⟩,
    ⟨0x171f, ["aTAGALOG LETTER ARCHAIC RAaHANUNOO LETTER AcIcUcKAcGAcNGAcTAcDAcNAcPAcBAcMAcYAcRA",
      "cLAcWAcSAcHAbVOWEL SIGN IdUbSIGN PAMUDPODaPHILIPPINE SINGLE PUNCTUATION",
      "bDOUBLE PUNCTUATION"]⟩,
    ⟨0x1740, ["aBUHID LETTER AcIcUcKAcGAcNGAcTAcDAcNAcPAcBAcMAcYAcRAcLAcWAcSAcHAbVOWEL SIGN IdU"]⟩,
    ⟨0x1760, ["aTAGBANWA LETTER AcIcUcKAcGAcNGAcTAcDAcNAcPAcBAcMAcYA"]⟩,
    ⟨0x176e, ["aTAGBANWA LETTER LAcWAcSA"]⟩,
    ⟨0x1772, ["aTAGBANWA VOWEL SIGN IdU"]⟩,
    ⟨0x1780, ["aKHMER LETTER KAcKHAcKOcKHOcNGOcCAcCHAcCOcCHOcNYOcDAcTTHAcDOcTTHOcNNOcTAcTHAcTO",
      "cTHOcNOcBAcPHAcPOcPHOcMOcYOcROcLOcVOcSHAcSSOcSAcHAcLAcQAbINDEPENDENT VOWEL QAQdQAAdQI",
      "dQIIdQUdQUKdQUUdQUUVdRYdRYYdLYdLYYdQEdQAIdQOO TYPE ONEfTWOdQAUbVOWEL INHERENT AQdAA",
      "cSIGN AAdIdIIdYdYYdUdUUdUAdOEdYAdIEdEdAEdAIdOOdAUbSIGN NIKAHITcREAHMUKcYUUKALEAPINTU",
      "cMUUSIKATOANcTRIISAPcBANTOCcROBATcTOANDAKHIATcKAKABATcAHSDAcSAMYOK SANNYAcVIRIAMcCOENG",
      "cBATHAMASATcKHANcBARIYOOSANcCAMNUC PII KUUHcLEK TOOcBEYYALcPHNAEK MUANcKOOMUUT",
      "bCURRENCY SYMBOL RIELbSIGN AVAKRAHASANYAcATTHACAN"]⟩,
    ⟨0x17e0, ["aKHMER DIGIT ZEROcONEcTWOcTHREEcFOURcFIVEcSIXcSEVENcEIGHTcNINE"]⟩,
    ⟨0x17f0, ["aKHMER SYMBOL LEK ATTAK SONeMUOYePIIeBEIeBUONePRAMePRAM-MUOYePRAM-PIIePRAM-BEI",
      "ePRAM-BUON"]⟩,
    ⟨0x1800, ["aMONGOLIAN BIRGAbELLIPSISbCOMMAbFULL STOPbCOLONbFOUR DOTSbTODO SOFT HYPHEN",
      "bSIBE SYLLABLE BOUNDARY MARKERbMANCHU COMMAcFULL STOPbNIRUGU",
      "bFREE VARIATION SELECTOR ONEeTWOeTHREEbVOWEL SEPARATORbFREE VARIATION SELECTOR FOUR",
      "bDIGIT ZEROcONEcTWOcTHREEcFOURcFIVEcSIXcSEVENcEIGHTcNINE"]⟩,
    ⟨0x1820, ["aMONGOLIAN LETTER AcEcIcOcUcOEcUEcEEcNAcANGcBAcPAcQAcGAcMAcLAcSAcSHAcTAcDAcCHAcJA",
      "cYAcRAcWAcFAcKAcKHAcTSAcZAcHAAcZRAcLHAcZHIcCHIcTODO LONG VOWEL SIGNdEdIdOdUdOEdUEdANG",
      "dBAdPAdQAdGAdMAdTAdDAdCHAdJAdTSAdYAdWAdKAdGAAdHAAdJIAdNIAdDZAcSIBE EdIdIYdUEdUdANGdKA",
      "dGAdHAdPAdSHAdTAdDAdJAdFAdGAAdHAAdTSAdZAdRAAdCHAdZHAcMANCHU IdKAdRAdFAdZHA",
      "cCHA WITH TWO DOTS"]⟩,
    ⟨0x1880, ["aMONGOLIAN LETTER ALI GALI ANUSVARA ONEeVISARGA ONEeDAMARUeUBADAMA",
      "eINVERTED UBADAMAeBALUDAeTHREE BALUDAeAeIeKAeNGAeCAeTTAeTTHAeDDAeNNAeTAeDAePAePHAeSSA",
      "eZHAeZAeAHcTODO ALI GALI TAfZHAcMANCHU ALI GALI GHAfNGAfCAfJHAfTTAfDDHAfTAfDHAfSSAfCYA",
      "fZHAfZAcALI GALI HALF UfYAcMANCHU ALI GALI BHAcALI GALI DAGALGAcMANCHU ALI GALI LHA"]⟩,
    ⟨0x18b0, ["aCANADIAN SYLLABICS OYcAYcAAYcWAYcPOYcPAYcPWOYcTAYcKAYcKWAYcMAYcNOYcNAYcLAYcSOY",
      "cSAYcSHOYcSHAYcSHWOYcYOYcYAYcRAYcNWIcOJIBWAY NWIcNWIIcOJIBWAY NWIIcNWOcOJIBWAY NWOcNWOO",
      "cOJIBWAY NWOOcRWEEcRWIcRWIIcRWOcRWOOcRWAcOJIBWAY PdTdKdCdMdNdSdSHcEASTERN WcWESTERN W",
      "cFINAL SMALL RINGdRAISED DOTcR-CREE RWEcWEST-CREE LOOdLAAcTHWEcTHWAcTTHWEcTTHOOcTTHAA",
      "cTLHWEcTLHOOcSAYISI SHWEdSHOOdHOOcCARRIER GWUdDENE GEEdGAAdGWAcSAYISI JUUcCARRIER JWA",
      "cBEAVER DENE LeRcCARRIER DENTAL S"]⟩,
    ⟨0x1900, ["aLIMBU VOWEL-CARRIER LETTERbLETTER KAcKHAcGAcGHAcNGAcCAcCHAcJAcJHAcYANcTAcTHAcDA",
      "cDHAcNAcPAcPHAcBAcBHAcMAcYAcRAcLAcWAcSHAcSSAcSAcHAcGYANcTRA"]⟩]

def namesFrom1920 : List NameRun :=
  [⟨0x1920, ["aLIMBU VOWEL SIGN AdIdUdEEdAIdOOdAUdEdObSUBJOINED LETTER YAdRAdWA"]⟩,
    ⟨0x1930, ["aLIMBU SMALL LETTER KAdNGAdANUSVARAdTAdNAdPAdMAdRAdLAbSIGN MUKPHRENGcKEMPHRENG",
      "cSA-I"]⟩,
    ⟨0x1940, ["aLIMBU SIGN LOO"]⟩,
    ⟨0x1944, ["aLIMBU EXCLAMATION MARKbQUESTION MARKbDIGIT ZEROcONEcTWOcTHREEcFOURcFIVEcSIX",
      "cSEVENcEIGHTcNINEaTAI LE LETTER KAdXAdNGAdTSAdSAdYAdTAdTHAdLAdPAdPHAdMAdFAdVAdHAdQAdKHA",
      "dTSHAdNAdAdIdEEdEHdUdOOdOdUEdEdAUEdAI"]⟩,
    ⟨0x1970, ["aTAI LE LETTER TONE-2dTONE-3dTONE-4dTONE-5dTONE-6"]⟩,
    ⟨0x1980, ["aNEW TAI LUE LETTER HIGH QAeLOW QAeHIGH KAfXAfNGAeLOW KAfXAfNGAeHIGH TSAfSAfYA",
      "eLOW TSAfSAfYAeHIGH TAfTHAfNAeLOW TAfTHAfNAeHIGH PAfPHAfMAeLOW PAfPHAfMAeHIGH FAfVAfLA",
      "eLOW FAfVAfLAeHIGH HAfDAfBAeLOW HAfDAfBAeHIGH KVAfXVAeLOW KVAfXVAeHIGH SUAeLOW SUA"]⟩,
    ⟨0x19b0, ["aNEW TAI LUE VOWEL SIGN VOWEL SHORTENERfAAfIIfUfUUfEfAEfOfOAfUEfAYfAAYfUYfOYfOAY",
      "fUEYfIYdLETTER FINAL VfNGfNfMfKfDfBdTONE MARK-1eMARK-2"]⟩,
    ⟨0x19d0, ["aNEW TAI LUE DIGIT ZEROeONEeTWOeTHREEeFOUReFIVEeSIXeSEVENeEIGHTeNINE",
      "dTHAM DIGIT ONE"]⟩,
    ⟨0x19de, ["aNEW TAI LUE SIGN LAEeLAEVaKHMER SYMBOL PATHAMASATcMUOY KOETcPII KOETcBEI KOET",
      "cBUON KOETcPRAM KOETcPRAM-MUOY KOETcPRAM-PII KOETcPRAM-BEI KOETcPRAM-BUON KOETcDAP KOET",
      "cDAP-MUOY KOETcDAP-PII KOETcDAP-BEI KOETcDAP-BUON KOETcDAP-PRAM KOETcTUTEYASATcMUOY ROC",
      "cPII ROCcBEI ROCcBUON ROCcPRAM ROCcPRAM-MUOY ROCcPRAM-PII ROCcPRAM-BEI ROC",
      "cPRAM-BUON ROCcDAP ROCcDAP-MUOY ROCcDAP-PII ROCcDAP-BEI ROCcDAP-BUON ROCcDAP-PRAM ROC",
      "aBUGINESE LETTER KAcGAcNGAcNGKAcPAcBAcMAcMPAcTAcDAcNAcNRAcCAcJAcNYAcNYCAcYAcRAcLAcVAcSA",
      "cAcHAbVOWEL SIGN IdUdEdOdAE"]⟩,
    ⟨0x1a1e, ["aBUGINESE PALLAWAbEND OF SECTIONaTAI THAM LETTER HIGH KAeKHAeKXAdLOW KAeKXAeKHA",
      "dNGAdHIGH CAeCHAdLOW CAeSAeCHAdNYAdRATAdHIGH RATHAdDAdLOW RATHAdRANAdHIGH TAeTHAdLOW TA",
      "eTHAdNAdBAdHIGH PAePHAeFAdLOW PAeFAePHAdMAdLOW YAdHIGH YAdRAdRUEdLAdLUEdWAdHIGH SHAeSSA",
      "eSAeHAdLLAdAdLOW HAdIdIIdUdUUdEEdOOdLAEdGREAT SAcCONSONANT SIGN MEDIAL RAfLA",
      "eLA TANG LAIcSIGN MAI KANG LAIcCONSONANT SIGN FINAL NGAeLOW PAeHIGH RATHA OR LOW PAeMA",
      "eBAeSA"]⟩,
    ⟨0x1a60, ["aTAI THAM SIGN SAKOTcVOWEL SIGN AeMAI SATeAAeTALL AAeIeIIeUEeUUEeUeUUeOeOA BELOW",
      "eOYeEeAEeOOeAIeTHAM AIeOA ABOVEcSIGN MAI KANGdTONE-1dTONE-2dKHUEN TONE-3eTONE-4eTONE-5",
      "dRA HAAMdMAI SAMdKHUEN-LUE KARAN"]⟩,
    ⟨0x1a7f, ["aTAI THAM COMBINING CRYPTOGRAMMIC DOTcHORA DIGIT ZEROeONEeTWOeTHREEeFOUReFIVEeSIX",
      "eSEVENeEIGHTeNINE"]⟩,
    ⟨0x1a90, ["aTAI THAM THAM DIGIT ZEROeONEeTWOeTHREEeFOUReFIVEeSIXeSEVENeEIGHTeNINE"]⟩,
    ⟨0x1aa0, ["aTAI THAM SIGN WIANGdWIANGWAAKdSAWANdKEOWdHOYdDOKMAIdREVERSED ROTATED RANA",
      "dMAI YAMOKdKAANdKAANKUUdSATKAANdSATKAANKUUdHANGdCAANG"]⟩,
    ⟨0x1ab0, ["aCOMBINING DOUBLED CIRCUMFLEX ACCENTbDIAERESIS-RINGbINFINITYbDOWNWARDS ARROW",
      "bTRIPLE DOTbX-X BELOWbWIGGLY LINE BELOWbOPEN MARK BELOWbDOUBLE OPEN MARK BELOW",
      "bLIGHT CENTRALIZATION STROKE BELOWbSTRONG CENTRALIZATION STROKE BELOWbPARENTHESES ABOVE",
      "bDOUBLE PARENTHESES ABOVEbPARENTHESES BELOWcOVERLAYbLATIN SMALL LETTER W BELOW",
      "eTURNED W BELOWbLEFT PARENTHESIS ABOVE LEFTbRIGHT PARENTHESIS ABOVE RIGHT",
      "bLEFT PARENTHESIS BELOW LEFTbRIGHT PARENTHESIS BELOW RIGHTbSQUARE BRACKETS ABOVE",
      "bNUMBER SIGN ABOVEbINVERTED DOUBLE ARCH ABOVEbPLUS SIGN ABOVEbDOUBLE PLUS SIGN ABOVE",
      "eBELOWbTRIPLE ACUTE ACCENTbLATIN SMALL LETTER INSULAR GfRfT"]⟩,
    ⟨0x1b00, ["aBALINESE SIGN ULU RICEMdCANDRAcCECEKcSURANGcBISAHbLETTER AKARAdTEDUNGcIKARA",
      "dTEDUNGcUKARAdTEDUNGcRA REPAeTEDUNGcLA LENGAeTEDUNGcEKARAcAIKARAcOKARAdTEDUNGcKA",
      "dMAHAPRANAcGAdGORAcNGAcCAdLACAcJAdJERAcNYAcTA LATIKdMURDA MAHAPRANAcDA MURDA ALPAPRANA",
      "eMAHAPRANAcNA RAMBATcTAdTAWAcDAdMADUcNAcPAdKAPALcBAdKEMBANGcMAcYAcRAcLAcWAcSA SAGAdSAPA",
      "cSAcHAbSIGN REREKANbVOWEL SIGN TEDUNGdULUeSARIdSUKUeILUTdRA REPAfTEDUNGdLA LENGAfTEDUNG",
      "dTALINGeREPAeTEDUNGeREPA TEDUNGdPEPETeTEDUNGbADEG ADEGbLETTER KAF SASAKcKHOT SASAK",
      "cTZIR SASAKcEF SASAKcVE SASAKcZAL SASAKcASYURA SASAKcARCHAIC JNYA"]⟩,
    ⟨0x1b50, ["aBALINESE DIGIT ZEROcONEcTWOcTHREEcFOURcFIVEcSIXcSEVENcEIGHTcNINEbPANTIbPAMADA",
      "bWINDUbCARIK PAMUNGKAHcSIKIcPARERENbPAMENENGbMUSICAL SYMBOL DONGdDENGdDUNGdDANGeSURANG",
      "dDINGdDAENGdDEUNGdDAINGdDANG GEDEdCOMBINING TEGEHeENDEPeKEMPULeKEMPLIeJEGOGAN",
      "eKEMPUL WITH JEGOGANeKEMPLI WITH JEGOGANeBENDEeGONGdRIGHT-HAND OPEN DUGfDAGeCLOSED TUK",
      "fTAKdLEFT-HAND OPEN PANGfPUNGeCLOSED PLAKfPLUKeOPEN PINGbPANTI LANTANGbPAMADA LANTANG"]⟩,
    ⟨0x1b80, ["aSUNDANESE SIGN PANYECEKcPANGLAYARcPANGWISADbLETTER AcIcUcAEcOcEcEUcKAcQAcGAcNGA",
      "cCAcJAcZAcNYAcTAcDAcNAcPAcFAcVAcBAcMAcYAcRAcLAcWAcSAcXAcHAbCONSONANT SIGN PAMINGKAL",
      "dPANYAKRAdPANYIKUbVOWEL SIGN PANGHULUdPANYUKUdPANAELAENGdPANOLONGdPAMEPETdPANEULEUNG",
      "bSIGN PAMAAEHcVIRAMAbCONSONANT SIGN PASANGAN MAeWAbLETTER KHAcSYAbDIGIT ZEROcONEcTWO",
      "cTHREEcFOURcFIVEcSIXcSEVENcEIGHTcNINEbAVAGRAHAbLETTER REUcLEUcBHAcFINAL KdM",
      "aBATAK LETTER AcSIMALUNGUN AcHAcSIMALUNGUN HAcMANDAILING HAcBAcKARO BAcPAcSIMALUNGUN PA",
      "cNAcMANDAILING NAcWAcSIMALUNGUN WAcPAKPAK WAcGAcSIMALUNGUN GAcJAcDAcRAcSIMALUNGUN RAcMA",
      "cSIMALUNGUN MAcSOUTHERN TAcNORTHERN TAcSAcSIMALUNGUN SAcMANDAILING SAcYAcSIMALUNGUN YA",
      "cNGAcLAcSIMALUNGUN LAcNYAcCAcNDAcMBAcIcUbSIGN TOMPIbVOWEL SIGN EdPAKPAK EdEEdIdKARO IdO",
      "dKARO OdUeFOR SIMALUNGUN SAbCONSONANT SIGN NGdHbPANGOLATbPANONGONAN"]⟩,
    ⟨0x1bfc, ["aBATAK SYMBOL BINDU NA METEKdPINARBORASdJUDULdPANGOLATaLEPCHA LETTER KAcKLAcKHA",
      "cGAcGLAcNGAcCAcCHAcJAcNYAcTAcTHAcDAcNAcPAcPLAcPHAcFAcFLAcBAcBLAcMAcMLAcTSAcTSHAcDZAcYA",
      "cRAcLAcHAcHLAcVAcSAcSHAcWAcAbSUBJOINED LETTER YAdRAbVOWEL SIGN AAdIdOdOOdUdUUdE",
      "bCONSONANT SIGN KdMdLdNdPdRdTdNYIN-DOdKANGbSIGN RANcNUKTA"]⟩,
    ⟨0x1c3b, ["aLEPCHA PUNCTUATION TA-ROLcNYET THYOOM TA-ROLcCER-WAcTSHOOK CER-WAcTSHOOK",
      "bDIGIT ZEROcONEcTWOcTHREEcFOURcFIVEcSIXcSEVENcEIGHTcNINE"]⟩,
    ⟨0x1c4d, ["aLEPCHA LETTER TTAcTTHAcDDAaOL CHIKI DIGIT ZEROdONEdTWOdTHREEdFOURdFIVEdSIXdSEVEN",
      "dEIGHTdNINEcLETTER LAdATdAGdANGdALdLAAdAAKdAAJdAAMdAAWdLIdISdIHdINYdIRdLUdUCdUDdUNNdUY",
      "dLEdEPdEDDdENdERRdLOdOTTdOBdOVdOHcMU TTUDDAGcGAAHLAA TTUDDAAGcMU-GAAHLAA TTUDDAAGcRELAA",
      "cPHAARKAAcAHADcPUNCTUATION MUCAADdDOUBLE MUCAADaCYRILLIC SMALL LETTER ROUNDED VE",
      "dLONG-LEGGED DEdNARROW OdWIDE ESdTALL TEdTHREE-LEGGED TEdTALL HARD SIGNeYAT",
      "dUNBLENDED UK"]⟩,
    ⟨0x1c90, ["aGEORGIAN MTAVRULI CAPITAL LETTER ANeBANeGANeDONeENeVINeZENeTANeINeKANeLASeMAN",
      "eNAReONePAReZHAReRAEeSANeTAReUNePHAReKHAReGHANeQAReSHINeCHINeCANeJILeCILeCHAReXANeJHAN",
      "eHAEeHEeHIEeWEeHAReHOEeFIeYNeELIFIeTURNED GANeAIN"]⟩,
    ⟨0x1cbd, ["aGEORGIAN MTAVRULI CAPITAL LETTER AENeHARD SIGNeLABIAL SIGN",
      "aSUNDANESE PUNCTUATION BINDU SURYAdPANGLONGdPURNAMAdCAKRAdLEU SATANGAdKA SATANGA",
      "dDA SATANGAdBA SATANGA"]⟩,
    ⟨0x1cd0, ["aVEDIC TONE KARSHANAcSHARAcPRENKHAbSIGN NIHSHVASAcYAJURVEDIC MIDLINE SVARITA",
      "bTONE YAJURVEDIC AGGRAVATED INDEPENDENT SVARITAdINDEPENDENT SVARITA",
      "dKATHAKA INDEPENDENT SVARITAcCANDRA BELOW",
      "cYAJURVEDIC KATHAKA INDEPENDENT SVARITA SCHROEDERcDOUBLE SVARITAcTRIPLE SVARITA",
      "cKATHAKA ANUDATTAcDOT BELOWcTWO DOTS BELOWcTHREE DOTS BELOW",
      "cRIGVEDIC KASHMIRI INDEPENDENT SVARITAcATHARVAVEDIC INDEPENDENT SVARITA",
      "bSIGN VISARGA SVARITAdUDATTAcREVERSED VISARGA UDATTAcVISARGA ANUDATTA",
      "cREVERSED VISARGA ANUDATTAcVISARGA UDATTA WITH TAILdANUDATTA WITH TAIL",
      "cANUSVARA ANTARGOMUKHAdBAHIRGOMUKHAdVAMAGOMUKHAeWITH TAILcTIRYAKcHEXIFORM LONG ANUSVARA",
      "cLONG ANUSVARAcRTHANG LONG ANUSVARAcANUSVARA UBHAYATO MUKHAcARDHAVISARGA",
      "cROTATED ARDHAVISARGAbTONE CANDRA ABOVEbSIGN JIHVAMULIYAcUPADHMANIYAcATIKRAMA",
      "bTONE RING ABOVEcDOUBLE RING ABOVEbSIGN DOUBLE ANUSVARA ANTARGOMUKHA"]⟩]

def namesFrom1D00 : List NameRun :=
  [⟨0x1d00, ["aLATIN LETTER SMALL CAPITAL AeAEbSMALL LETTER TURNED AE",
      "bLETTER SMALL CAPITAL BARRED BeCeDeETHeEbSMALL LETTER TURNED OPEN EeI",
      "bLETTER SMALL CAPITAL JeKeL WITH STROKEeMeREVERSED NeOeOPEN ObSMALL LETTER SIDEWAYS O",
      "eOPEN OeO WITH STROKEdTURNED OEbLETTER SMALL CAPITAL OUbSMALL LETTER TOP HALF O",
      "dBOTTOM HALF ObLETTER SMALL CAPITAL PeREVERSED ReTURNED ReTeUbSMALL LETTER SIDEWAYS U",
      "eDIAERESIZED UeTURNED MbLETTER SMALL CAPITAL VeWeZeEZHcVOICED LARYNGEAL SPIRANTcAIN",
      "aGREEK LETTER SMALL CAPITAL GAMMAeLAMDAePIeRHOePSIaCYRILLIC LETTER SMALL CAPITAL EL",
      "aMODIFIER LETTER CAPITAL AdAEdBdBARRED BdDdEdREVERSED EdGdHdIdJdKdLdMdNdREVERSED NdOdOU",
      "dPdRdTdUdWcSMALL AdTURNED AdALPHAdTURNED AEdBdDdEdSCHWAdOPEN EdTURNED OPEN EdGdTURNED I",
      "dKdMdENGdOdOPEN OdTOP HALF OdBOTTOM HALF OdPdTdUdSIDEWAYS UdTURNED MdVdAINdBETA",
      "dGREEK GAMMAdDELTAdGREEK PHIdCHIaLATIN SUBSCRIPT SMALL LETTER IeReUeV",
      "aGREEK SUBSCRIPT SMALL LETTER BETAeGAMMAeRHOePHIeCHIaLATIN SMALL LETTER UE",
      "dB WITH MIDDLE TILDEdD WITH MIDDLE TILDEdF WITH MIDDLE TILDEdM WITH MIDDLE TILDE",
      "dN WITH MIDDLE TILDEdP WITH MIDDLE TILDEdR WITH MIDDLE TILDEfFISHHOOK AND MIDDLE TILDE",
      "dS WITH MIDDLE TILDEdT WITH MIDDLE TILDEdZ WITH MIDDLE TILDEdTURNED G",
      "aMODIFIER LETTER CYRILLIC ENaLATIN SMALL LETTER INSULAR GdTH WITH STRIKETHROUGH",
      "cCAPITAL LETTER I WITH STROKEcLETTER IOTA WITH STROKEdP WITH STROKE",
      "cCAPITAL LETTER U WITH STROKEcLETTER UPSILON WITH STROKEdB WITH PALATAL HOOK",
      "dD WITH PALATAL HOOKdF WITH PALATAL HOOKdG WITH PALATAL HOOKdK WITH PALATAL HOOK",
      "dL WITH PALATAL HOOKdM WITH PALATAL HOOKdN WITH PALATAL HOOKdP WITH PALATAL HOOK",
      "dR WITH PALATAL HOOKdS WITH PALATAL HOOKdESH WITH PALATAL HOOKdV WITH PALATAL HOOK",
      "dX WITH PALATAL HOOKdZ WITH PALATAL HOOKdA WITH RETROFLEX HOOK",
      "dALPHA WITH RETROFLEX HOOKdD WITH HOOK AND TAILdE WITH RETROFLEX HOOK",
      "dOPEN E WITH RETROFLEX HOOKdREVERSED OPEN E WITH RETROFLEX HOOK",
      "dSCHWA WITH RETROFLEX HOOKdI WITH RETROFLEX HOOKdOPEN O WITH RETROFLEX HOOK",
      "dESH WITH RETROFLEX HOOKdU WITH RETROFLEX HOOKdEZH WITH RETROFLEX HOOK",
      "aMODIFIER LETTER SMALL TURNED ALPHAdCeWITH CURLdETHdREVERSED OPEN EdF",
      "dDOTLESS J WITH STROKEdSCRIPT GdTURNED HdI WITH STROKEdIOTAdCAPITAL IfWITH STROKE",
      "dJ WITH CROSSED-TAILdL WITH RETROFLEX HOOKfPALATAL HOOKdCAPITAL LdM WITH HOOK",
      "dTURNED M WITH LONG LEGdN WITH LEFT HOOKfRETROFLEX HOOKdCAPITAL NdBARRED OdPHI",
      "dS WITH HOOKdESHdT WITH PALATAL HOOKdU BARdUPSILONdCAPITAL UdV WITH HOOKdTURNED VdZ",
      "eWITH RETROFLEX HOOKfCURLdEZHdTHETAaCOMBINING DOTTED GRAVE ACCENTcACUTE ACCENT",
      "bSNAKE BELOWbSUSPENSION MARKbMACRON-ACUTEbGRAVE-MACRONbMACRON-GRAVEbACUTE-MACRON",
      "bGRAVE-ACUTE-GRAVEbACUTE-GRAVE-ACUTEbLATIN SMALL LETTER R BELOWbBREVE-MACRON",
      "bMACRON-BREVEbDOUBLE CIRCUMFLEX ABOVEbOGONEK ABOVEbZIGZAG BELOWbIS BELOWbUR ABOVE",
      "bUS ABOVEbLATIN SMALL LETTER FLATTENED OPEN A ABOVEeAEeAOeAVeC CEDILLAeINSULAR DeETHeG",
      "cLETTER SMALL CAPITAL GcSMALL LETTER KeLcLETTER SMALL CAPITAL LfMcSMALL LETTER N",
      "cLETTER SMALL CAPITAL NfRcSMALL LETTER R ROTUNDAeSeLONG SeZeALPHAeBeBETAeSCHWAeF",
      "eL WITH DOUBLE MIDDLE TILDEeO WITH LIGHT CENTRALIZATION STROKEePeESH",
      "eU WITH LIGHT CENTRALIZATION STROKEeWeA WITH DIAERESISeO WITH DIAERESIS",
      "eU WITH DIAERESISbUP TACK ABOVEbKAVYKA ABOVE RIGHTdLEFTbDOT ABOVE LEFT",
      "bWIDE INVERTED BRIDGE BELOWbDOT BELOW LEFTbDELETION MARKbDOUBLE INVERTED BREVE BELOW",
      "bALMOST EQUAL TO BELOWbLEFT ARROWHEAD ABOVEbRIGHT ARROWHEAD AND DOWN ARROWHEAD BELOW",
      "aLATIN CAPITAL LETTER A WITH RING BELOWbSMALL LETTER A WITH RING BELOW",
      "bCAPITAL LETTER B WITH DOT ABOVEbSMALL LETTER B WITH DOT ABOVE",
      "bCAPITAL LETTER B WITH DOT BELOWbSMALL LETTER B WITH DOT BELOW",
      "bCAPITAL LETTER B WITH LINE BELOWbSMALL LETTER B WITH LINE BELOW",
      "bCAPITAL LETTER C WITH CEDILLA AND ACUTEbSMALL LETTER C WITH CEDILLA AND ACUTE",
      "bCAPITAL LETTER D WITH DOT ABOVEbSMALL LETTER D WITH DOT ABOVE",
      "bCAPITAL LETTER D WITH DOT BELOWbSMALL LETTER D WITH DOT BELOW",
      "bCAPITAL LETTER D WITH LINE BELOWbSMALL LETTER D WITH LINE BELOW",
      "bCAPITAL LETTER D WITH CEDILLAbSMALL LETTER D WITH CEDILLA",
      "bCAPITAL LETTER D WITH CIRCUMFLEX BELOWbSMALL LETTER D WITH CIRCUMFLEX BELOW",
      "bCAPITAL LETTER E WITH MACRON AND GRAVEbSMALL LETTER E WITH MACRON AND GRAVE",
      "bCAPITAL LETTER E WITH MACRON AND ACUTEbSMALL LETTER E WITH MACRON AND ACUTE",
      "bCAPITAL LETTER E WITH CIRCUMFLEX BELOWbSMALL LETTER E WITH CIRCUMFLEX BELOW",
      "bCAPITAL LETTER E WITH TILDE BELOWbSMALL LETTER E WITH TILDE BELOW",
      "bCAPITAL LETTER E WITH CEDILLA AND BREVEbSMALL LETTER E WITH CEDILLA AND BREVE",
      "bCAPITAL LETTER F WITH DOT ABOVEbSMALL LETTER F WITH DOT ABOVE",
      "bCAPITAL LETTER G WITH MACRONbSMALL LETTER G WITH MACRON",
      "bCAPITAL LETTER H WITH DOT ABOVEbSMALL LETTER H WITH DOT ABOVE",
      "bCAPITAL LETTER H WITH DOT BELOWbSMALL LETTER H WITH DOT BELOW",
      "bCAPITAL LETTER H WITH DIAERESISbSMALL LETTER H WITH DIAERESIS",
      "bCAPITAL LETTER H WITH CEDILLAbSMALL LETTER H WITH CEDILLA",
      "bCAPITAL LETTER H WITH BREVE BELOWbSMALL LETTER H WITH BREVE BELOW",
      "bCAPITAL LETTER I WITH TILDE BELOWbSMALL LETTER I WITH TILDE BELOW",
      "bCAPITAL LETTER I WITH DIAERESIS AND ACUTEbSMALL LETTER I WITH DIAERESIS AND ACUTE",
      "bCAPITAL LETTER K WITH ACUTEbSMALL LETTER K WITH ACUTEbCAPITAL LETTER K WITH DOT BELOW",
      "bSMALL LETTER K WITH DOT BELOWbCAPITAL LETTER K WITH LINE BELOW",
      "bSMALL LETTER K WITH LINE BELOWbCAPITAL LETTER L WITH DOT BELOW",
      "bSMALL LETTER L WITH DOT BELOWbCAPITAL LETTER L WITH DOT BELOW AND MACRON",
      "bSMALL LETTER L WITH DOT BELOW AND MACRONbCAPITAL LETTER L WITH LINE BELOW",
      "bSMALL LETTER L WITH LINE BELOWbCAPITAL LETTER L WITH CIRCUMFLEX BELOW",
      "bSMALL LETTER L WITH CIRCUMFLEX BELOWbCAPITAL LETTER M WITH ACUTE",
      "bSMALL LETTER M WITH ACUTEbCAPITAL LETTER M WITH DOT ABOVE",
      "bSMALL LETTER M WITH DOT ABOVEbCAPITAL LETTER M WITH DOT BELOW",
      "bSMALL LETTER M WITH DOT BELOWbCAPITAL LETTER N WITH DOT ABOVE",
      "bSMALL LETTER N WITH DOT ABOVEbCAPITAL LETTER N WITH DOT BELOW",
      "bSMALL LETTER N WITH DOT BELOWbCAPITAL LETTER N WITH LINE BELOW",
      "bSMALL LETTER N WITH LINE BELOWbCAPITAL LETTER N WITH CIRCUMFLEX BELOW",
      "bSMALL LETTER N WITH CIRCUMFLEX BELOWbCAPITAL LETTER O WITH TILDE AND ACUTE",
      "bSMALL LETTER O WITH TILDE AND ACUTEbCAPITAL LETTER O WITH TILDE AND DIAERESIS",
      "bSMALL LETTER O WITH TILDE AND DIAERESISbCAPITAL LETTER O WITH MACRON AND GRAVE",
      "bSMALL LETTER O WITH MACRON AND GRAVEbCAPITAL LETTER O WITH MACRON AND ACUTE",
      "bSMALL LETTER O WITH MACRON AND ACUTEbCAPITAL LETTER P WITH ACUTE",
      "bSMALL LETTER P WITH ACUTEbCAPITAL LETTER P WITH DOT ABOVE",
      "bSMALL LETTER P WITH DOT ABOVEbCAPITAL LETTER R WITH DOT ABOVE",
      "bSMALL LETTER R WITH DOT ABOVEbCAPITAL LETTER R WITH DOT BELOW",
      "bSMALL LETTER R WITH DOT BELOWbCAPITAL LETTER R WITH DOT BELOW AND MACRON",
      "bSMALL LETTER R WITH DOT BELOW AND MACRONbCAPITAL LETTER R WITH LINE BELOW",
      "bSMALL LETTER R WITH LINE BELOWbCAPITAL LETTER S WITH DOT ABOVE",
      "bSMALL LETTER S WITH DOT ABOVEbCAPITAL LETTER S WITH DOT BELOW",
      "bSMALL LETTER S WITH DOT BELOWbCAPITAL LETTER S WITH ACUTE AND DOT ABOVE",
      "bSMALL LETTER S WITH ACUTE AND DOT ABOVEbCAPITAL LETTER S WITH CARON AND DOT ABOVE",
      "bSMALL LETTER S WITH CARON AND DOT ABOVEbCAPITAL LETTER S WITH DOT BELOW AND DOT ABOVE",
      "bSMALL LETTER S WITH DOT BELOW AND DOT ABOVEbCAPITAL LETTER T WITH DOT ABOVE",
      "bSMALL LETTER T WITH DOT ABOVEbCAPITAL LETTER T WITH DOT BELOW",
      "bSMALL LETTER T WITH DOT BELOWbCAPITAL LETTER T WITH LINE BELOW",
      "bSMALL LETTER T WITH LINE BELOWbCAPITAL LETTER T WITH CIRCUMFLEX BELOW",
      "bSMALL LETTER T WITH CIRCUMFLEX BELOWbCAPITAL LETTER U WITH DIAERESIS BELOW",
      "bSMALL LETTER U WITH DIAERESIS BELOWbCAPITAL LETTER U WITH TILDE BELOW",
      "bSMALL LETTER U WITH TILDE BELOWbCAPITAL LETTER U WITH CIRCUMFLEX BELOW",
      "bSMALL LETTER U WITH CIRCUMFLEX BELOWbCAPITAL LETTER U WITH TILDE AND ACUTE",
      "bSMALL LETTER U WITH TILDE AND ACUTEbCAPITAL LETTER U WITH MACRON AND DIAERESIS",
      "bSMALL LETTER U WITH MACRON AND DIAERESISbCAPITAL LETTER V WITH TILDE",
      "bSMALL LETTER V WITH TILDEbCAPITAL LETTER V WITH DOT BELOW",
      "bSMALL LETTER V WITH DOT BELOWbCAPITAL LETTER W WITH GRAVEbSMALL LETTER W WITH GRAVE",
      "bCAPITAL LETTER W WITH ACUTEbSMALL LETTER W WITH ACUTEbCAPITAL LETTER W WITH DIAERESIS",
      "bSMALL LETTER W WITH DIAERESISbCAPITAL LETTER W WITH DOT ABOVE",
      "bSMALL LETTER W WITH DOT ABOVEbCAPITAL LETTER W WITH DOT BELOW",
      "bSMALL LETTER W WITH DOT BELOWbCAPITAL LETTER X WITH DOT ABOVE",
      "bSMALL LETTER X WITH DOT ABOVEbCAPITAL LETTER X WITH DIAERESIS",
      "bSMALL LETTER X WITH DIAERESISbCAPITAL LETTER Y WITH DOT ABOVE",
      "bSMALL LETTER Y WITH DOT ABOVEbCAPITAL LETTER Z WITH CIRCUMFLEX",
      "bSMALL LETTER Z WITH CIRCUMFLEXbCAPITAL LETTER Z WITH DOT BELOW",
      "bSMALL LETTER Z WITH DOT BELOWbCAPITAL LETTER Z WITH LINE BELOW",
      "bSMALL LETTER Z WITH LINE BELOWdH WITH LINE BELOWdT WITH DIAERESISdW WITH RING ABOVE",
      "dY WITH RING ABOVEdA WITH RIGHT HALF RINGdLONG S WITH DOT ABOVEgDIAGONAL STROKE",
      "gHIGH STROKEbCAPITAL LETTER SHARP SbSMALL LETTER DELTAbCAPITAL LETTER A WITH DOT BELOW",
      "bSMALL LETTER A WITH DOT BELOWbCAPITAL LETTER A WITH HOOK ABOVE",
      "bSMALL LETTER A WITH HOOK ABOVEbCAPITAL LETTER A WITH CIRCUMFLEX AND ACUTE",
      "bSMALL LETTER A WITH CIRCUMFLEX AND ACUTEbCAPITAL LETTER A WITH CIRCUMFLEX AND GRAVE",
      "bSMALL LETTER A WITH CIRCUMFLEX AND GRAVE",
      "bCAPITAL LETTER A WITH CIRCUMFLEX AND HOOK ABOVE",
      "bSMALL LETTER A WITH CIRCUMFLEX AND HOOK ABOVE",
      "bCAPITAL LETTER A WITH CIRCUMFLEX AND TILDEbSMALL LETTER A WITH CIRCUMFLEX AND TILDE",
      "bCAPITAL LETTER A WITH CIRCUMFLEX AND DOT BELOW",
      "bSMALL LETTER A WITH CIRCUMFLEX AND DOT BELOWbCAPITAL LETTER A WITH BREVE AND ACUTE",
      "bSMALL LETTER A WITH BREVE AND ACUTEbCAPITAL LETTER A WITH BREVE AND GRAVE",
      "bSMALL LETTER A WITH BREVE AND GRAVEbCAPITAL LETTER A WITH BREVE AND HOOK ABOVE",
      "bSMALL LETTER A WITH BREVE AND HOOK ABOVEbCAPITAL LETTER A WITH BREVE AND TILDE",
      "bSMALL LETTER A WITH BREVE AND TILDEbCAPITAL LETTER A WITH BREVE AND DOT BELOW",
      "bSMALL LETTER A WITH BREVE AND DOT BELOWbCAPITAL LETTER E WITH DOT BELOW",
      "bSMALL LETTER E WITH DOT BELOWbCAPITAL LETTER E WITH HOOK ABOVE",
      "bSMALL LETTER E WITH HOOK ABOVEbCAPITAL LETTER E WITH TILDEbSMALL LETTER E WITH TILDE",
      "bCAPITAL LETTER E WITH CIRCUMFLEX AND ACUTEbSMALL LETTER E WITH CIRCUMFLEX AND ACUTE",
      "bCAPITAL LETTER E WITH CIRCUMFLEX AND GRAVEbSMALL LETTER E WITH CIRCUMFLEX AND GRAVE",
      "bCAPITAL LETTER E WITH CIRCUMFLEX AND HOOK ABOVE",
      "bSMALL LETTER E WITH CIRCUMFLEX AND HOOK ABOVE",
      "bCAPITAL LETTER E WITH CIRCUMFLEX AND TILDEbSMALL LETTER E WITH CIRCUMFLEX AND TILDE",
      "bCAPITAL LETTER E WITH CIRCUMFLEX AND DOT BELOW",
      "bSMALL LETTER E WITH CIRCUMFLEX AND DOT BELOWbCAPITAL LETTER I WITH HOOK ABOVE",
      "bSMALL LETTER I WITH HOOK ABOVEbCAPITAL LETTER I WITH DOT BELOW",
      "bSMALL LETTER I WITH DOT BELOWbCAPITAL LETTER O WITH DOT BELOW",
      "bSMALL LETTER O WITH DOT BELOWbCAPITAL LETTER O WITH HOOK ABOVE",
      "bSMALL LETTER O WITH HOOK ABOVEbCAPITAL LETTER O WITH CIRCUMFLEX AND ACUTE",
      "bSMALL LETTER O WITH CIRCUMFLEX AND ACUTEbCAPITAL LETTER O WITH CIRCUMFLEX AND GRAVE",
      "bSMALL LETTER O WITH CIRCUMFLEX AND GRAVE",
      "bCAPITAL LETTER O WITH CIRCUMFLEX AND HOOK ABOVE",
      "bSMALL LETTER O WITH CIRCUMFLEX AND HOOK ABOVE",
      "bCAPITAL LETTER O WITH CIRCUMFLEX AND TILDEbSMALL LETTER O WITH CIRCUMFLEX AND TILDE",
      "bCAPITAL LETTER O WITH CIRCUMFLEX AND DOT BELOW",
      "bSMALL LETTER O WITH CIRCUMFLEX AND DOT BELOWbCAPITAL LETTER O WITH HORN AND ACUTE",
      "bSMALL LETTER O WITH HORN AND ACUTEbCAPITAL LETTER O WITH HORN AND GRAVE",
      "bSMALL LETTER O WITH HORN AND GRAVEbCAPITAL LETTER O WITH HORN AND HOOK ABOVE",
      "bSMALL LETTER O WITH HORN AND HOOK ABOVEbCAPITAL LETTER O WITH HORN AND TILDE",
      "bSMALL LETTER O WITH HORN AND TILDEbCAPITAL LETTER O WITH HORN AND DOT BELOW",
      "bSMALL LETTER O WITH HORN AND DOT BELOWbCAPITAL LETTER U WITH DOT BELOW",
      "bSMALL LETTER U WITH DOT BELOWbCAPITAL LETTER U WITH HOOK ABOVE",
      "bSMALL LETTER U WITH HOOK ABOVEbCAPITAL LETTER U WITH HORN AND ACUTE",
      "bSMALL LETTER U WITH HORN AND ACUTEbCAPITAL LETTER U WITH HORN AND GRAVE",
      "bSMALL LETTER U WITH HORN AND GRAVEbCAPITAL LETTER U WITH HORN AND HOOK ABOVE",
      "bSMALL LETTER U WITH HORN AND HOOK ABOVEbCAPITAL LETTER U WITH HORN AND TILDE",
      "bSMALL LETTER U WITH HORN AND TILDEbCAPITAL LETTER U WITH HORN AND DOT BELOW",
      "bSMALL LETTER U WITH HORN AND DOT BELOWbCAPITAL LETTER Y WITH GRAVE",
      "bSMALL LETTER Y WITH GRAVEbCAPITAL LETTER Y WITH DOT BELOW",
      "bSMALL LETTER Y WITH DOT BELOWbCAPITAL LETTER Y WITH HOOK ABOVE",
      "bSMALL LETTER Y WITH HOOK ABOVEbCAPITAL LETTER Y WITH TILDEbSMALL LETTER Y WITH TILDE",
      "bCAPITAL LETTER MIDDLE-WELSH LLbSMALL LETTER MIDDLE-WELSH LL",
      "bCAPITAL LETTER MIDDLE-WELSH VbSMALL LETTER MIDDLE-WELSH VbCAPITAL LETTER Y WITH LOOP",
      "bSMALL LETTER Y WITH LOOPaGREEK SMALL LETTER ALPHA WITH PSILIfDASIAfPSILI AND VARIA",
      "fDASIA AND VARIAfPSILI AND OXIAfDASIA AND OXIAfPSILI AND PERISPOMENI",
      "fDASIA AND PERISPOMENIbCAPITAL LETTER ALPHA WITH PSILIfDASIAfPSILI AND VARIA",
      "fDASIA AND VARIAfPSILI AND OXIAfDASIA AND OXIAfPSILI AND PERISPOMENI",
      "fDASIA AND PERISPOMENIbSMALL LETTER EPSILON WITH PSILIfDASIAfPSILI AND VARIA",
      "fDASIA AND VARIAfPSILI AND OXIAfDASIA AND OXIA"]⟩]

def namesFrom1F18 : List NameRun :=
  [⟨0x1f18, ["aGREEK CAPITAL LETTER EPSILON WITH PSILIfDASIAfPSILI AND VARIAfDASIA AND VARIA",
      "fPSILI AND OXIAfDASIA AND OXIA"]⟩,
    ⟨0x1f20, ["aGREEK SMALL LETTER ETA WITH PSILIfDASIAfPSILI AND VARIAfDASIA AND VARIA",
      "fPSILI AND OXIAfDASIA AND OXIAfPSILI AND PERISPOMENIfDASIA AND PERISPOMENI",
      "bCAPITAL LETTER ETA WITH PSILIfDASIAfPSILI AND VARIAfDASIA AND VARIAfPSILI AND OXIA",
      "fDASIA AND OXIAfPSILI AND PERISPOMENIfDASIA AND PERISPOMENI",
      "bSMALL LETTER IOTA WITH PSILIfDASIAfPSILI AND VARIAfDASIA AND VARIAfPSILI AND OXIA",
      "fDASIA AND OXIAfPSILI AND PERISPOMENIfDASIA AND PERISPOMENI",
      "bCAPITAL LETTER IOTA WITH PSILIfDASIAfPSILI AND VARIAfDASIA AND VARIAfPSILI AND OXIA",
      "fDASIA AND OXIAfPSILI AND PERISPOMENIfDASIA AND PERISPOMENI",
      "bSMALL LETTER OMICRON WITH PSILIfDASIAfPSILI AND VARIAfDASIA AND VARIAfPSILI AND OXIA",
      "fDASIA AND OXIA"]⟩,
    ⟨0x1f48, ["aGREEK CAPITAL LETTER OMICRON WITH PSILIfDASIAfPSILI AND VARIAfDASIA AND VARIA",
      "fPSILI AND OXIAfDASIA AND OXIA"]⟩,
    ⟨0x1f50, ["aGREEK SMALL LETTER UPSILON WITH PSILIfDASIAfPSILI AND VARIAfDASIA AND VARIA",
      "fPSILI AND OXIAfDASIA AND OXIAfPSILI AND PERISPOMENIfDASIA AND PERISPOMENI"]⟩,
    ⟨0x1f59, ["aGREEK CAPITAL LETTER UPSILON WITH DASIA"]⟩,
    ⟨0x1f5b, ["aGREEK CAPITAL LETTER UPSILON WITH DASIA AND VARIA"]⟩,
    ⟨0x1f5d, ["aGREEK CAPITAL LETTER UPSILON WITH DASIA AND OXIA"]⟩,
    ⟨0x1f5f, ["aGREEK CAPITAL LETTER UPSILON WITH DASIA AND PERISPOMENI",
      "bSMALL LETTER OMEGA WITH PSILIfDASIAfPSILI AND VARIAfDASIA AND VARIAfPSILI AND OXIA",
      "fDASIA AND OXIAfPSILI AND PERISPOMENIfDASIA AND PERISPOMENI",
      "bCAPITAL LETTER OMEGA WITH PSILIfDASIAfPSILI AND VARIAfDASIA AND VARIAfPSILI AND OXIA",
      "fDASIA AND OXIAfPSILI AND PERISPOMENIfDASIA AND PERISPOMENI",
      "bSMALL LETTER ALPHA WITH VARIAfOXIAdEPSILON WITH VARIAfOXIAdETA WITH VARIAfOXIA",
      "dIOTA WITH VARIAfOXIAdOMICRON WITH VARIAfOXIAdUPSILON WITH VARIAfOXIAdOMEGA WITH VARIA",
      "fOXIA"]⟩,
    ⟨0x1f80, ["aGREEK SMALL LETTER ALPHA WITH PSILI AND YPOGEGRAMMENIfDASIA AND YPOGEGRAMMENI",
      "fPSILI AND VARIA AND YPOGEGRAMMENIfDASIA AND VARIA AND YPOGEGRAMMENI",
      "fPSILI AND OXIA AND YPOGEGRAMMENIfDASIA AND OXIA AND YPOGEGRAMMENI",
      "fPSILI AND PERISPOMENI AND YPOGEGRAMMENIfDASIA AND PERISPOMENI AND YPOGEGRAMMENI",
      "bCAPITAL LETTER ALPHA WITH PSILI AND PROSGEGRAMMENIfDASIA AND PROSGEGRAMMENI",
      "fPSILI AND VARIA AND PROSGEGRAMMENIfDASIA AND VARIA AND PROSGEGRAMMENI",
      "fPSILI AND OXIA AND PROSGEGRAMMENIfDASIA AND OXIA AND PROSGEGRAMMENI",
      "fPSILI AND PERISPOMENI AND PROSGEGRAMMENIfDASIA AND PERISPOMENI AND PROSGEGRAMMENI",
      "bSMALL LETTER ETA WITH PSILI AND YPOGEGRAMMENIfDASIA AND YPOGEGRAMMENI",
      "fPSILI AND VARIA AND YPOGEGRAMMENIfDASIA AND VARIA AND YPOGEGRAMMENI",
      "fPSILI AND OXIA AND YPOGEGRAMMENIfDASIA AND OXIA AND YPOGEGRAMMENI",
      "fPSILI AND PERISPOMENI AND YPOGEGRAMMENIfDASIA AND PERISPOMENI AND YPOGEGRAMMENI",
      "bCAPITAL LETTER ETA WITH PSILI AND PROSGEGRAMMENIfDASIA AND PROSGEGRAMMENI",
      "fPSILI AND VARIA AND PROSGEGRAMMENIfDASIA AND VARIA AND PROSGEGRAMMENI",
      "fPSILI AND OXIA AND PROSGEGRAMMENIfDASIA AND OXIA AND PROSGEGRAMMENI",
      "fPSILI AND PERISPOMENI AND PROSGEGRAMMENIfDASIA AND PERISPOMENI AND PROSGEGRAMMENI",
      "bSMALL LETTER OMEGA WITH PSILI AND YPOGEGRAMMENIfDASIA AND YPOGEGRAMMENI",
      "fPSILI AND VARIA AND YPOGEGRAMMENIfDASIA AND VARIA AND YPOGEGRAMMENI",
      "fPSILI AND OXIA AND YPOGEGRAMMENIfDASIA AND OXIA AND YPOGEGRAMMENI",
      "fPSILI AND PERISPOMENI AND YPOGEGRAMMENIfDASIA AND PERISPOMENI AND YPOGEGRAMMENI",
      "bCAPITAL LETTER OMEGA WITH PSILI AND PROSGEGRAMMENIfDASIA AND PROSGEGRAMMENI",
      "fPSILI AND VARIA AND PROSGEGRAMMENIfDASIA AND VARIA AND PROSGEGRAMMENI",
      "fPSILI AND OXIA AND PROSGEGRAMMENIfDASIA AND OXIA AND PROSGEGRAMMENI",
      "fPSILI AND PERISPOMENI AND PROSGEGRAMMENIfDASIA AND PERISPOMENI AND PROSGEGRAMMENI",
      "bSMALL LETTER ALPHA WITH VRACHYfMACRONfVARIA AND YPOGEGRAMMENIfYPOGEGRAMMENI",
      "fOXIA AND YPOGEGRAMMENI"]⟩,
    ⟨0x1fb6, ["aGREEK SMALL LETTER ALPHA WITH PERISPOMENIgAND YPOGEGRAMMENI",
      "bCAPITAL LETTER ALPHA WITH VRACHYfMACRONfVARIAfOXIAfPROSGEGRAMMENIbKORONIS",
      "bPROSGEGRAMMENIbPSILIbPERISPOMENIbDIALYTIKA AND PERISPOMENI",
      "bSMALL LETTER ETA WITH VARIA AND YPOGEGRAMMENIfYPOGEGRAMMENIfOXIA AND YPOGEGRAMMENI"]⟩,
    ⟨0x1fc6, ["aGREEK SMALL LETTER ETA WITH PERISPOMENIgAND YPOGEGRAMMENI",
      "bCAPITAL LETTER EPSILON WITH VARIAfOXIAdETA WITH VARIAfOXIAfPROSGEGRAMMENI",
      "bPSILI AND VARIAdOXIAdPERISPOMENIbSMALL LETTER IOTA WITH VRACHYfMACRON",
      "fDIALYTIKA AND VARIAhOXIA"]⟩,
    ⟨0x1fd6, ["aGREEK SMALL LETTER IOTA WITH PERISPOMENIfDIALYTIKA AND PERISPOMENI",
      "bCAPITAL LETTER IOTA WITH VRACHYfMACRONfVARIAfOXIA"]⟩,
    ⟨0x1fdd, ["aGREEK DASIA AND VARIAdOXIAdPERISPOMENIbSMALL LETTER UPSILON WITH VRACHYfMACRON",
      "fDIALYTIKA AND VARIAhOXIAdRHO WITH PSILIfDASIAdUPSILON WITH PERISPOMENI",
      "fDIALYTIKA AND PERISPOMENIbCAPITAL LETTER UPSILON WITH VRACHYfMACRONfVARIAfOXIA",
      "dRHO WITH DASIAbDIALYTIKA AND VARIAdOXIAbVARIA"]⟩,
    ⟨0x1ff2, ["aGREEK SMALL LETTER OMEGA WITH VARIA AND YPOGEGRAMMENIfYPOGEGRAMMENI",
      "fOXIA AND YPOGEGRAMMENI"]⟩,
    ⟨0x1ff6, ["aGREEK SMALL LETTER OMEGA WITH PERISPOMENIgAND YPOGEGRAMMENI",
      "bCAPITAL LETTER OMICRON WITH VARIAfOXIAdOMEGA WITH VARIAfOXIAfPROSGEGRAMMENIbOXIAbDASIA"]⟩]

def scriptsNames : List NameRun :=
  namesFrom0020 ++ namesFrom00A0 ++ namesFrom037A ++ namesFrom058D ++ namesFrom0898 ++
    namesFrom0AD0 ++ namesFrom0C4A ++ namesFrom0E81 ++ namesFrom1312 ++ namesFrom1920 ++
    namesFrom1D00 ++ namesFrom1F18

end ModuleGlue.Text
