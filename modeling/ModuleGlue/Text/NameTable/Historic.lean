import ModuleGlue.Text.NameTable.Basic

/-!
Contract: the names of the characters of historic scripts.

Owns: the names, in runs of characters that follow each other.

Does not own: how the names are looked up.
-/

namespace ModuleGlue.Text

def namesFrom10000 : List NameRun :=
  [⟨0x10000, ["aLINEAR B SYLLABLE B008 AdB038 EdB028 IdB061 OdB010 UdB001 DAdB045 DEdB007 DI",
      "dB014 DOdB051 DUdB057 JAdB046 JE"]⟩,
    ⟨0x1000d, ["aLINEAR B SYLLABLE B036 JOdB065 JUdB077 KAdB044 KEdB067 KIdB070 KOdB081 KU",
      "dB080 MAdB013 MEdB073 MIdB015 MOdB023 MUdB006 NAdB024 NEdB030 NIdB052 NOdB055 NU",
      "dB003 PAdB072 PEdB039 PIdB011 POdB050 PUdB016 QAdB078 QEdB021 QIdB032 QO"]⟩,
    ⟨0x10028, ["aLINEAR B SYLLABLE B060 RAdB027 REdB053 RIdB002 ROdB026 RUdB031 SAdB009 SE",
      "dB041 SIdB012 SOdB058 SUdB059 TAdB004 TEdB037 TIdB005 TOdB069 TUdB054 WAdB075 WE",
      "dB040 WIdB042 WO"]⟩,
    ⟨0x1003c, ["aLINEAR B SYLLABLE B017 ZAdB074 ZE"]⟩,
    ⟨0x1003f, ["aLINEAR B SYLLABLE B020 ZOdB025 A2dB043 A3dB085 AUdB071 DWEdB090 DWOdB048 NWA",
      "dB029 PU2dB062 PTEdB076 RA2dB033 RA3dB068 RO2dB066 TA2dB087 TWEdB091 TWO"]⟩,
    ⟨0x10050, ["aLINEAR B SYMBOL B018dB019dB022dB034dB047dB049dB056dB063dB064dB079dB082dB083",
      "dB086dB089"]⟩,
    ⟨0x10080, ["aLINEAR B IDEOGRAM B100 MANdB102 WOMANdB104 DEERdB105 EQUIDdB105F MARE",
      "dB105M STALLIONdB106F EWEdB106M RAMdB107F SHE-GOATdB107M HE-GOATdB108F SOWdB108M BOAR",
      "dB109F COWdB109M BULLdB120 WHEATdB121 BARLEYdB122 OLIVEdB123 SPICEdB125 CYPERUS",
      "cMONOGRAM B127 KAPOdB128 KANAKOcIDEOGRAM B130 OILdB131 WINEdB132cMONOGRAM B133 AREPA",
      "dB135 MERIcIDEOGRAM B140 BRONZEdB141 GOLDdB142dB145 WOOLdB146dB150dB151 HORNdB152dB153",
      "dB154cMONOGRAM B156 TURO2cIDEOGRAM B157dB158dB159 CLOTHdB160dB161dB162 GARMENT",
      "dB163 ARMOURdB164dB165dB166dB167dB168dB169dB170dB171dB172dB173 MONTHdB174dB176 TREE",
      "dB177dB178dB179dB180dB181dB182dB183dB184dB185dB189dB190dB191 HELMETdB220 FOOTSTOOL",
      "dB225 BATHTUBdB230 SPEARdB231 ARROWdB232dB233 SWORDdB234dB236dB240 WHEELED CHARIOT",
      "dB241 CHARIOTdB242 CHARIOT FRAMEdB243 WHEELdB245dB246cMONOGRAM B247 DIPTEcIDEOGRAM B248",
      "dB249dB251dB252dB253dB254 DARTdB255dB256dB257dB258dB259dVESSEL B155eB200eB201eB202eB203",
      "eB204eB205eB206eB207eB208eB209eB210eB211eB212eB213eB214eB215eB216eB217eB218eB219eB221",
      "eB222eB226eB227eB228eB229eB250eB305"]⟩,
    ⟨0x10100, ["aAEGEAN WORD SEPARATOR LINEdDOTbCHECK MARK"]⟩,
    ⟨0x10107, ["aAEGEAN NUMBER ONEcTWOcTHREEcFOURcFIVEcSIXcSEVENcEIGHTcNINEcTENcTWENTYcTHIRTY",
      "cFORTYcFIFTYcSIXTYcSEVENTYcEIGHTYcNINETYcONE HUNDREDcTWO HUNDREDcTHREE HUNDRED",
      "cFOUR HUNDREDcFIVE HUNDREDcSIX HUNDREDcSEVEN HUNDREDcEIGHT HUNDREDcNINE HUNDRED",
      "cONE THOUSANDcTWO THOUSANDcTHREE THOUSANDcFOUR THOUSANDcFIVE THOUSANDcSIX THOUSAND",
      "cSEVEN THOUSANDcEIGHT THOUSANDcNINE THOUSANDcTEN THOUSANDcTWENTY THOUSAND",
      "cTHIRTY THOUSANDcFORTY THOUSANDcFIFTY THOUSANDcSIXTY THOUSANDcSEVENTY THOUSAND",
      "cEIGHTY THOUSANDcNINETY THOUSAND"]⟩,
    ⟨0x10137, ["aAEGEAN WEIGHT BASE UNITcFIRST SUBUNITcSECOND SUBUNITcTHIRD SUBUNIT",
      "cFOURTH SUBUNITbDRY MEASURE FIRST SUBUNITbLIQUID MEASURE FIRST SUBUNIT",
      "bMEASURE SECOND SUBUNITcTHIRD SUBUNITaGREEK ACROPHONIC ATTIC ONE QUARTEReHALFeDRACHMA",
      "dFIVEdFIFTYdFIVE HUNDREDeTHOUSANDdFIFTY THOUSANDdFIVE TALENTSdTEN TALENTSdFIFTY TALENTS",
      "dONE HUNDRED TALENTSdFIVE HUNDRED TALENTSdONE THOUSAND TALENTSdFIVE THOUSAND TALENTS",
      "eSTATERSdTEN STATERSdFIFTY STATERSdONE HUNDRED STATERSdFIVE HUNDRED STATERS",
      "dONE THOUSAND STATERSdTEN THOUSAND STATERSdFIFTY THOUSAND STATERSdTEN MNAS",
      "cHERAEUM ONE PLETHRONcTHESPIAN ONEcHERMIONIAN ONEcEPIDAUREAN TWOcTHESPIAN TWO",
      "cCYRENAIC TWO DRACHMAScEPIDAUREAN TWO DRACHMAScTROEZENIAN FIVEdTENeALTERNATE FORM",
      "cHERMIONIAN TENcMESSENIAN TENcTHESPIAN TENdTHIRTYcTROEZENIAN FIFTYeALTERNATE FORM",
      "cHERMIONIAN FIFTYcTHESPIAN FIFTYdONE HUNDREDdTHREE HUNDREDcEPIDAUREAN FIVE HUNDRED",
      "cTROEZENIAN FIVE HUNDREDcTHESPIAN FIVE HUNDREDcCARYSTIAN FIVE HUNDRED",
      "cNAXIAN FIVE HUNDREDcTHESPIAN ONE THOUSANDdFIVE THOUSANDcDELPHIC FIVE MNAS",
      "cSTRATIAN FIFTY MNASbONE HALF SIGNeALTERNATE FORMbTWO THIRDS SIGNbTHREE QUARTERS SIGN",
      "bYEAR SIGNbTALENT SIGNbDRACHMA SIGNbOBOL SIGNbTWO OBOLS SIGNbTHREE OBOLS SIGN",
      "bFOUR OBOLS SIGNbFIVE OBOLS SIGNbMETRETES SIGNbKYATHOS BASE SIGNbLITRA SIGNbOUNKIA SIGN",
      "bXESTES SIGNbARTABE SIGNbAROURA SIGNbGRAMMA SIGNbTRYBLION BASE SIGNbZERO SIGN",
      "bONE QUARTER SIGNbSINUSOID SIGNbINDICTION SIGNaNOMISMA SIGN"]⟩,
    ⟨0x10190, ["aROMAN SEXTANS SIGNbUNCIA SIGNbSEMUNCIA SIGNbSEXTULA SIGNbDIMIDIA SEXTULA SIGN",
      "bSILIQUA SIGNbDENARIUS SIGNbQUINARIUS SIGNbSESTERTIUS SIGNbDUPONDIUS SIGNbAS SIGN",
      "bCENTURIAL SIGNaASCIA SYMBOL"]⟩,
    ⟨0x101a0, ["aGREEK SYMBOL TAU RHO"]⟩,
    ⟨0x101d0, ["aPHAISTOS DISC SIGN PEDESTRIANdPLUMED HEADdTATTOOED HEADdCAPTIVEdCHILDdWOMAN",
      "dHELMETdGAUNTLETdTIARAdARROWdBOWdSHIELDdCLUBdMANACLESdMATTOCKdSAWdLIDdBOOMERANG",
      "dCARPENTRY PLANEdDOLIUMdCOMBdSLINGdCOLUMNdBEEHIVEdSHIPdHORNdHIDEdBULLS LEGdCATdRAM",
      "dEAGLEdDOVEdTUNNYdBEEdPLANE TREEdVINEdPAPYRUSdROSETTEdLILYdOX BACKdFLUTEdGRATER",
      "dSTRAINERdSMALL AXEdWAVY BANDdCOMBINING OBLIQUE STROKE"]⟩,
    ⟨0x10280, ["aLYCIAN LETTER AcEcBcBHcGcDcIcWcZcTHcJcKcQcLcMcNcMMcNNcUcPcKKcRcScTcTTcANcENcHcX"]⟩,
    ⟨0x102a0, ["aCARIAN LETTER AcP2cDcLcUUUcRcLDcA2cQcBcMcOcD2cTcSHcSH2cScC-18cUcNNcXcNcTT2cPcSS",
      "cIcEcUUUUcKcK2cNDcUUcGcG2cSTcST2cNGcIIcC-39cTTcUUU2cRRcMBcMB2cMB3cMB4cLD2cE2cUUU3"]⟩,
    ⟨0x102e0, ["aCOPTIC EPACT THOUSANDS MARKcDIGIT ONEdTWOdTHREEdFOURdFIVEdSIXdSEVENdEIGHTdNINE",
      "cNUMBER TENdTWENTYdTHIRTYdFORTYdFIFTYdSIXTYdSEVENTYdEIGHTYdNINETYdONE HUNDRED",
      "dTWO HUNDREDdTHREE HUNDREDdFOUR HUNDREDdFIVE HUNDREDdSIX HUNDREDdSEVEN HUNDRED",
      "dEIGHT HUNDREDdNINE HUNDRED"]⟩,
    ⟨0x10300, ["aOLD ITALIC LETTER AdBEdKEdDEdEdVEdZEdHEdTHEdIdKAdELdEMdENdESHdOdPEdSHEdKUdERdES",
      "dTEdUdEKSdPHEdKHEdEFdERSdCHEdIIdUUdESScNUMERAL ONEdFIVEdTENdFIFTY"]⟩,
    ⟨0x1032d, ["aOLD ITALIC LETTER YEdNORTHERN TSEdSOUTHERN TSEaGOTHIC LETTER AHSAcBAIRKANcGIBA",
      "cDAGScAIHVUScQAIRTHRAcIUJAcHAGLcTHIUTHcEIScKUSMAcLAGUScMANNAcNAUTHScJERcURUScPAIRTHRA",
      "cNINETYcRAIDAcSAUILcTEIWScWINJAcFAIHUcIGGWScHWAIRcOTHALcNINE HUNDRED"]⟩,
    ⟨0x10350, ["aOLD PERMIC LETTER ANdBURdGAIdDOIdEdZHOIdDZHOIdZATAdDZITAdIdKOKEdLEIdMENOEdNENOE",
      "dVOOIdPEEIdREIdSIIdTAIdUdCHERYdSHOOIdSHCHOOIdYRYdYERUdOdOOdEFdHAdTSIUdVERdYERdYERIdYAT",
      "dIEdYUdYAdIAaCOMBINING OLD PERMIC LETTER ANeDOIeZATAeNENOEeSII"]⟩,
    ⟨0x10380, ["aUGARITIC LETTER ALPAcBETAcGAMLAcKHAcDELTAcHOcWOcZETAcHOTAcTETcYODcKAFcSHIN",
      "cLAMDAcMEMcDHALcNUNcZUcSAMKAcAINcPUcSADEcQOPAcRASHAcTHANNAcGHAINcTOcIcUcSSU"]⟩,
    ⟨0x1039f, ["aUGARITIC WORD DIVIDERaOLD PERSIAN SIGN AdIdUdKAdKUdGAdGUdXAdCAdJAdJIdTAdTUdDA",
      "dDIdDUdTHAdPAdBAdFAdNAdNUdMAdMIdMUdYAdVAdVIdRAdRUdLAdSAdZAdSHAdSSAdHA"]⟩,
    ⟨0x103c8, ["aOLD PERSIAN SIGN AURAMAZDAAdAURAMAZDAA-2dAURAMAZDAAHAdXSHAAYATHIYAdDAHYAAUSH",
      "dDAHYAAUSH-2dBAGAdBUUMISHcWORD DIVIDERcNUMBER ONEdTWOdTENdTWENTYdHUNDRED"]⟩,
    ⟨0x10400, ["aDESERET CAPITAL LETTER LONG IeEeAeAHeOeOOdSHORT IeEeAeAHeOeOOdAYdOWdWUdYEEdH",
      "dPEEdBEEdTEEdDEEdCHEEdJEEdKAYdGAYdEFdVEEdETHdTHEEdESdZEEdESHdZHEEdERdELdEMdENdENGdOIdEW",
      "bSMALL LETTER LONG IeEeAeAHeOeOOdSHORT IeEeAeAHeOeOOdAYdOWdWUdYEEdHdPEEdBEEdTEEdDEE",
      "dCHEEdJEEdKAYdGAYdEFdVEEdETHdTHEEdESdZEEdESHdZHEEdERdELdEMdENdENGdOIdEW",
      "aSHAVIAN LETTER PEEPcTOTcKICKcFEEcTHIGHcSOcSUREcCHURCHcYEAcHUNGcBIBcDEADcGAGcVOWcTHEY",
      "cZOOcMEASUREcJUDGEcWOEcHA-HAcLOLLcMIMEcIFcEGGcASHcADOcONcWOOLcOUTcAHcROARcNUNcEATcAGE",
      "cICEcUPcOAKcOOZEcOILcAWEcAREcORcAIRcERRcARRAYcEARcIANcYEWaOSMANYA LETTER ALEFcBAcTAcJA",
      "cXAcKHAcDEELcRAcSAcSHIINcDHAcCAYNcGAcFAcQAAFcKAAFcLAANcMIINcNUUNcWAWcHAcYAcAcEcIcOcUcAA",
      "cEEcOO"]⟩,
    ⟨0x104a0, ["aOSMANYA DIGIT ZEROcONEcTWOcTHREEcFOURcFIVEcSIXcSEVENcEIGHTcNINE"]⟩,
    ⟨0x104b0, ["aOSAGE CAPITAL LETTER AdAIdAINdAHdBRAdCHAdEHCHAdEdEINdHAdHYAdIdKAdEHKAdKYAdLAdMA",
      "dNAdOdOINdPAdEHPAdSAdSHAdTAdEHTAdTSAdEHTSAdTSHAdDHAdUdWAdKHAdGHAdZAdZHA"]⟩,
    ⟨0x104d8, ["aOSAGE SMALL LETTER AdAIdAINdAHdBRAdCHAdEHCHAdEdEINdHAdHYAdIdKAdEHKAdKYAdLAdMA",
      "dNAdOdOINdPAdEHPAdSAdSHAdTAdEHTAdTSAdEHTSAdTSHAdDHAdUdWAdKHAdGHAdZAdZHA"]⟩,
    ⟨0x10500, ["aELBASAN LETTER AcBEcCEcCHEcDEcNDEcDHEcEIcEcFEcGEcGJEcHEcIcJEcKEcLEcLLEcMEcNEcNA",
      "cNJEcOcPEcQEcREcRREcSEcSHEcTEcTHEcUcVEcXEcYcZEcZHEcGHEcGHAMMAcKHE"]⟩,
    ⟨0x10530, ["aCAUCASIAN ALBANIAN LETTER ALTdBETdGIMdDATdEBdZARLdEYNdZHILdTASdCHAdYOWDdZHAdIRB",
      "dSHAdLANdINYAdXEYNdDYANdCARdJHOXdKARdLYITdHEYTdQAYdAORdCHOYdCHIdCYAYdMAQdQARdNOWCdDZYAY",
      "dSHAKdJAYNdONdTYAYdFAMdDZAYdCHATdPENdGHEYSdRATdSEYKdVEYZdTIWRdSHOYdIWNdCYAWdCAYNdYAYD",
      "dPIWRdKIW"]⟩,
    ⟨0x1056f, ["aCAUCASIAN ALBANIAN CITATION MARKaVITHKUQI CAPITAL LETTER AdBBEdBEdCEdCHEdDEdDHE",
      "dEIdEdFEdGA"]⟩,
    ⟨0x1057c, ["aVITHKUQI CAPITAL LETTER HAdHHAdIdIJEdJEdKAdLAdLLAdMEdNEdNJEdOdPEdQAdRE"]⟩,
    ⟨0x1058c, ["aVITHKUQI CAPITAL LETTER SEdSHEdTEdTHEdUdVEdXE"]⟩,
    ⟨0x10594, ["aVITHKUQI CAPITAL LETTER YdZE"]⟩,
    ⟨0x10597, ["aVITHKUQI SMALL LETTER AdBBEdBEdCEdCHEdDEdDHEdEIdEdFEdGA"]⟩,
    ⟨0x105a3, ["aVITHKUQI SMALL LETTER HAdHHAdIdIJEdJEdKAdLAdLLAdMEdNEdNJEdOdPEdQAdRE"]⟩,
    ⟨0x105b3, ["aVITHKUQI SMALL LETTER SEdSHEdTEdTHEdUdVEdXE"]⟩,
    ⟨0x105bb, ["aVITHKUQI SMALL LETTER YdZE"]⟩]

def namesFrom10600 : List NameRun :=
  [⟨0x10600, ["aLINEAR A SIGN AB001dAB002dAB003dAB004dAB005dAB006dAB007dAB008dAB009dAB010dAB011",
      "dAB013dAB016dAB017dAB020dAB021dAB021FdAB021MdAB022dAB022FdAB022MdAB023dAB023MdAB024",
      "dAB026dAB027dAB028dA028BdAB029dAB030dAB031dAB034dAB037dAB038dAB039dAB040dAB041dAB044",
      "dAB045dAB046dAB047dAB048dAB049dAB050dAB051dAB053dAB054dAB055dAB056dAB057dAB058dAB059",
      "dAB060dAB061dAB065dAB066dAB067dAB069dAB070dAB073dAB074dAB076dAB077dAB078dAB079dAB080",
      "dAB081dAB082dAB085dAB086dAB087dA100-102dAB118dAB120dA120BdAB122dAB123dAB131AdAB131B",
      "dA131CdAB164dAB171dAB180dAB188dAB191dA301dA302dA303dA304dA305dA306dA307dA308dA309A",
      "dA309BdA309CdA310dA311dA312dA313AdA313BdA313CdA314dA315dA316dA317dA318dA319dA320dA321",
      "dA322dA323dA324dA325dA326dA327dA328dA329dA330dA331dA332dA333dA334dA335dA336dA337dA338",
      "dA339dA340dA341dA342dA343dA344dA345dA346dA347dA348dA349dA350dA351dA352dA353dA354dA355",
      "dA356dA357dA358dA359dA360dA361dA362dA363dA364dA365dA366dA367dA368dA369dA370dA371",
      "dA400-VASdA401-VASdA402-VASdA403-VASdA404-VASdA405-VASdA406-VASdA407-VASdA408-VAS",
      "dA409-VASdA410-VASdA411-VASdA412-VASdA413-VASdA414-VASdA415-VASdA416-VASdA417-VAS",
      "dA418-VASdA501dA502dA503dA504dA505dA506dA508dA509dA510dA511dA512dA513dA515dA516dA520",
      "dA521dA523dA524dA525dA526dA527dA528dA529dA530dA531dA532dA534dA535dA536dA537dA538dA539",
      "dA540dA541dA542dA545dA547dA548dA549dA550dA551dA552dA553dA554dA555dA556dA557dA559dA563",
      "dA564dA565dA566dA568dA569dA570dA571dA572dA573dA574dA575dA576dA577dA578dA579dA580dA581",
      "dA582dA583dA584dA585dA586dA587dA588dA589dA591dA592dA594dA595dA596dA598dA600dA601dA602",
      "dA603dA604dA606dA608dA609dA610dA611dA612dA613dA614dA615dA616dA617dA618dA619dA620dA621",
      "dA622dA623dA624dA626dA627dA628dA629dA634dA637dA638dA640dA642dA643dA644dA645dA646dA648",
      "dA649dA651dA652dA653dA654dA655dA656dA657dA658dA659dA660dA661dA662dA663dA664"]⟩,
    ⟨0x10740, ["aLINEAR A SIGN A701 AdA702 BdA703 DdA704 EdA705 FdA706 HdA707 JdA708 KdA709 L",
      "dA709-2 L2dA709-3 L3dA709-4 L4dA709-6 L6dA710 WdA711 XdA712 YdA713 OMEGAdA714 ABB",
      "dA715 BBdA717 DDdA726 EYYYdA732 JE"]⟩,
    ⟨0x10760, ["aLINEAR A SIGN A800dA801dA802dA803dA804dA805dA806dA807"]⟩,
    ⟨0x10780, ["aMODIFIER LETTER SMALL CAPITAL AAcSUPERSCRIPT TRIANGULAR COLON",
      "dHALF TRIANGULAR COLONcSMALL AEdCAPITAL BdB WITH HOOK"]⟩,
    ⟨0x10787, ["aMODIFIER LETTER SMALL DZ DIGRAPHfWITH RETROFLEX HOOKgCURLdDEZH DIGRAPH",
      "dD WITH TAILfHOOKgAND TAILdREVERSED EdCLOSED REVERSED OPEN EdFENG DIGRAPHdRAMS HORN",
      "dCAPITAL GdG WITH HOOKdCAPITAL G WITH HOOKdH WITH STROKEdCAPITAL HdHENG WITH HOOK",
      "dDOTLESS J WITH STROKE AND HOOKdLS DIGRAPHdLZ DIGRAPHdL WITH BELTdCAPITAL L WITH BELT",
      "dL WITH RETROFLEX HOOK AND BELTdLEZHeWITH RETROFLEX HOOKdTURNED YfWITH BELT",
      "dO WITH STROKEdCAPITAL OEdCLOSED OMEGAdQdTURNED R WITH LONG LEGiAND RETROFLEX HOOK",
      "dR WITH TAILfFISHHOOKdCAPITAL RdTC DIGRAPH WITH CURLdTS DIGRAPHfWITH RETROFLEX HOOK",
      "dTESH DIGRAPHdT WITH RETROFLEX HOOKdV WITH RIGHT HOOK"]⟩,
    ⟨0x107b2, ["aMODIFIER LETTER SMALL CAPITAL YcGLOTTAL STOP WITH STROKE",
      "cREVERSED GLOTTAL STOP WITH STROKEcBILABIAL CLICKcDENTAL CLICKcLATERAL CLICK",
      "cALVEOLAR CLICKcRETROFLEX CLICK WITH RETROFLEX HOOKcSMALL S WITH CURL"]⟩,
    ⟨0x10800, ["aCYPRIOT SYLLABLE AcEcIcOcUcJA"]⟩,
    ⟨0x10808, ["aCYPRIOT SYLLABLE JO"]⟩,
    ⟨0x1080a, ["aCYPRIOT SYLLABLE KAcKEcKIcKOcKUcLAcLEcLIcLOcLUcMAcMEcMIcMOcMUcNAcNEcNIcNOcNUcPA",
      "cPEcPIcPOcPUcRAcREcRIcROcRUcSAcSEcSIcSOcSUcTAcTEcTIcTOcTUcWAcWEcWIcWO"]⟩,
    ⟨0x10837, ["aCYPRIOT SYLLABLE XAcXE"]⟩,
    ⟨0x1083c, ["aCYPRIOT SYLLABLE ZA"]⟩,
    ⟨0x1083f, ["aCYPRIOT SYLLABLE ZOaIMPERIAL ARAMAIC LETTER ALEPHdBETHdGIMELdDALETHdHEdWAW",
      "dZAYINdHETHdTETHdYODHdKAPHdLAMEDHdMEMdNUNdSAMEKHdAYINdPEdSADHEdQOPHdRESHdSHINdTAW"]⟩,
    ⟨0x10857, ["aIMPERIAL ARAMAIC SECTION SIGNcNUMBER ONEdTWOdTHREEdTENdTWENTYdONE HUNDRED",
      "eTHOUSANDdTEN THOUSANDaPALMYRENE LETTER ALEPHcBETHcGIMELcDALETHcHEcWAWcZAYINcHETHcTETH",
      "cYODHcKAPHcLAMEDHcMEMcFINAL NUNcNUNcSAMEKHcAYINcPEcSADHEcQOPHcRESHcSHINcTAW",
      "bLEFT-POINTING FLEURONbRIGHT-POINTING FLEURONbNUMBER ONEcTWOcTHREEcFOURcFIVEcTENcTWENTY",
      "aNABATAEAN LETTER FINAL ALEPHcALEPHcFINAL BETHcBETHcGIMELcDALETHcFINAL HEcHEcWAWcZAYIN",
      "cHETHcTETHcFINAL YODHcYODHcFINAL KAPHcKAPHcFINAL LAMEDHcLAMEDHcFINAL MEMcMEMcFINAL NUN",
      "cNUNcSAMEKHcAYINcPEcSADHEcQOPHcRESHcFINAL SHINcSHINcTAW"]⟩,
    ⟨0x108a7, ["aNABATAEAN NUMBER ONEcTWOcTHREEcFOURbCRUCIFORM NUMBER FOURbNUMBER FIVEcTEN",
      "cTWENTYcONE HUNDRED"]⟩,
    ⟨0x108e0, ["aHATRAN LETTER ALEPHcBETHcGIMELcDALETH-RESHcHEcWAWcZAYNcHETHcTETHcYODHcKAPH",
      "cLAMEDHcMEMcNUNcSAMEKHcAYNcPEcSADHEcQOPH"]⟩,
    ⟨0x108f4, ["aHATRAN LETTER SHINcTAW"]⟩,
    ⟨0x108fb, ["aHATRAN NUMBER ONEcFIVEcTENcTWENTYcONE HUNDREDaPHOENICIAN LETTER ALFcBETcGAML",
      "cDELTcHEcWAUcZAIcHETcTETcYODcKAFcLAMDcMEMcNUNcSEMKcAINcPEcSADEcQOFcROSHcSHINcTAU",
      "bNUMBER ONEcTENcTWENTYcONE HUNDREDcTWOcTHREE"]⟩,
    ⟨0x1091f, ["aPHOENICIAN WORD SEPARATORaLYDIAN LETTER AcBcGcDcEcVcIcYcKcLcMcNcOcRcSScTcUcFcQ",
      "cScTTcANcENcLYcNNcC"]⟩,
    ⟨0x1093f, ["aLYDIAN TRIANGULAR MARK"]⟩,
    ⟨0x10980, ["aMEROITIC HIEROGLYPHIC LETTER AdEdIdOdYAdWAdBAdBA-2dPAdMAdNAdNA-2dNEdNE-2dRA",
      "dRA-2dLAdKHAdHHAdSAdSA-2dSEdKAdQAdTAdTA-2dTEdTE-2dTOdDAcSYMBOL VIDJdVIDJ-2",
      "bCURSIVE LETTER AdEdIdOdYAdWAdBAdPAdMAdNAdNEdRAdLAdKHAdHHAdSAdARCHAIC SAdSEdKAdQAdTAdTE",
      "dTOdDA"]⟩,
    ⟨0x109bc, ["aMEROITIC CURSIVE FRACTION ELEVEN TWELFTHSdONE HALFcLOGOGRAM RMTdIMNcNUMBER ONE",
      "dTWOdTHREEdFOURdFIVEdSIXdSEVENdEIGHTdNINEdTENdTWENTYdTHIRTYdFORTYdFIFTYdSIXTYdSEVENTY"]⟩,
    ⟨0x109d2, ["aMEROITIC CURSIVE NUMBER ONE HUNDREDdTWO HUNDREDdTHREE HUNDREDdFOUR HUNDRED",
      "dFIVE HUNDREDdSIX HUNDREDdSEVEN HUNDREDdEIGHT HUNDREDdNINE HUNDREDdONE THOUSAND",
      "dTWO THOUSANDdTHREE THOUSANDdFOUR THOUSANDdFIVE THOUSANDdSIX THOUSANDdSEVEN THOUSAND",
      "dEIGHT THOUSANDdNINE THOUSANDdTEN THOUSANDdTWENTY THOUSANDdTHIRTY THOUSAND",
      "dFORTY THOUSANDdFIFTY THOUSANDdSIXTY THOUSANDdSEVENTY THOUSANDdEIGHTY THOUSAND",
      "dNINETY THOUSANDdONE HUNDRED THOUSANDdTWO HUNDRED THOUSANDdTHREE HUNDRED THOUSAND",
      "dFOUR HUNDRED THOUSANDdFIVE HUNDRED THOUSANDdSIX HUNDRED THOUSAND",
      "dSEVEN HUNDRED THOUSANDdEIGHT HUNDRED THOUSANDdNINE HUNDRED THOUSAND",
      "cFRACTION ONE TWELFTHdTWO TWELFTHSdTHREE TWELFTHSdFOUR TWELFTHSdFIVE TWELFTHS",
      "dSIX TWELFTHSdSEVEN TWELFTHSdEIGHT TWELFTHSdNINE TWELFTHSdTEN TWELFTHS",
      "aKHAROSHTHI LETTER AbVOWEL SIGN IdUdVOCALIC R"]⟩,
    ⟨0x10a05, ["aKHAROSHTHI VOWEL SIGN EdO"]⟩,
    ⟨0x10a0c, ["aKHAROSHTHI VOWEL LENGTH MARKbSIGN DOUBLE RING BELOWcANUSVARAcVISARGAbLETTER KA",
      "cKHAcGAcGHA"]⟩,
    ⟨0x10a15, ["aKHAROSHTHI LETTER CAcCHAcJA"]⟩,
    ⟨0x10a19, ["aKHAROSHTHI LETTER NYAcTTAcTTHAcDDAcDDHAcNNAcTAcTHAcDAcDHAcNAcPAcPHAcBAcBHAcMA",
      "cYAcRAcLAcVAcSHAcSSAcSAcZAcHAcKKAcTTTHAcTTTAcVHA"]⟩,
    ⟨0x10a38, ["aKHAROSHTHI SIGN BAR ABOVEcCAUDAcDOT BELOW"]⟩,
    ⟨0x10a3f, ["aKHAROSHTHI VIRAMAbDIGIT ONEcTWOcTHREEcFOURbNUMBER TENcTWENTYcONE HUNDRED",
      "dTHOUSANDbFRACTION ONE HALF"]⟩,
    ⟨0x10a50, ["aKHAROSHTHI PUNCTUATION DOTcSMALL CIRCLEcCIRCLEcCRESCENT BARcMANGALAMcLOTUS",
      "cDANDAcDOUBLE DANDAcLINES"]⟩,
    ⟨0x10a60, ["aOLD SOUTH ARABIAN LETTER HEeLAMEDHeHETHeMEMeQOPHeWAWeSHINeRESHeBETHeTAWeSAT",
      "eKAPHeNUNeKHETHeSADHEeSAMEKHeFEeALEFeAYNeDHADHEeGIMELeDALETHeGHAYNeTETHeZAYNeDHALETH",
      "eYODHeTHAWeTHETHdNUMBER ONEeFIFTYdNUMERIC INDICATORbNORTH ARABIAN LETTER HEHeLAMeHAH",
      "eMEEMeQAFeWAWeES-2eREHeBEHeTEHeES-1eKAFeNOONeKHAHeSADeES-3eFEHeALEFeAINeDADeGEEMeDAL",
      "eGHAINeTAHeZAINeTHALeYEHeTHEHeZAHdNUMBER ONEeTENeTWENTY"]⟩,
    ⟨0x10ac0, ["aMANICHAEAN LETTER ALEPHcBETHcBHETHcGIMELcGHIMELcDALETHcHEcWAWbSIGN UD",
      "bLETTER ZAYINcZHAYINcJAYINcJHAYINcHETHcTETHcYODHcKAPHcXAPHcKHAPHcLAMEDHcDHAMEDHcTHAMEDH",
      "cMEMcNUNcSAMEKHcAYINcAAYINcPEcFEcSADHEcQOPHcXOPHcQHOPHcRESHcSHINcSSHINcTAW",
      "bABBREVIATION MARK ABOVEdBELOW"]⟩,
    ⟨0x10aeb, ["aMANICHAEAN NUMBER ONEcFIVEcTENcTWENTYcONE HUNDREDbPUNCTUATION STARcFLEURON",
      "cDOUBLE DOT WITHIN DOTcDOT WITHIN DOTcDOTcTWO DOTScLINE FILLER"]⟩,
    ⟨0x10b00, ["aAVESTAN LETTER AcAAcAOcAAOcANcAANcAEcAEEcEcEEcOcOOcIcIIcUcUUcKEcXEcXYEcXVEcGE",
      "cGGEcGHEcCEcJEcTEcTHEcDEcDHEcTTEcPEcFEcBEcBHEcNGEcNGYEcNGVEcNEcNYEcNNEcMEcHMEcYYEcYEcVE",
      "cREcLEcSEcZEcSHEcZHEcSHYEcSSHEcHE"]⟩,
    ⟨0x10b39, ["aAVESTAN ABBREVIATION MARKaTINY TWO DOTS OVER ONE DOT PUNCTUATION",
      "aSMALL TWO DOTS OVER ONE DOT PUNCTUATIONaLARGE TWO DOTS OVER ONE DOT PUNCTUATION",
      "bONE DOT OVER TWO DOTS PUNCTUATIONbTWO RINGS OVER ONE RING PUNCTUATION",
      "bONE RING OVER TWO RINGS PUNCTUATIONaINSCRIPTIONAL PARTHIAN LETTER ALEPHdBETHdGIMEL",
      "dDALETHdHEdWAWdZAYINdHETHdTETHdYODHdKAPHdLAMEDHdMEMdNUNdSAMEKHdAYINdPEdSADHEdQOPHdRESH",
      "dSHINdTAW"]⟩,
    ⟨0x10b58, ["aINSCRIPTIONAL PARTHIAN NUMBER ONEdTWOdTHREEdFOURdTENdTWENTYdONE HUNDRED",
      "eTHOUSANDbPAHLAVI LETTER ALEPHdBETHdGIMELdDALETHdHEdWAW-AYIN-RESHdZAYINdHETHdTETHdYODH",
      "dKAPHdLAMEDHdMEM-QOPHdNUNdSAMEKHdPEdSADHEdSHINdTAW"]⟩,
    ⟨0x10b78, ["aINSCRIPTIONAL PAHLAVI NUMBER ONEdTWOdTHREEdFOURdTENdTWENTYdONE HUNDREDeTHOUSAND",
      "aPSALTER PAHLAVI LETTER ALEPHdBETHdGIMELdDALETHdHEdWAW-AYIN-RESHdZAYINdHETHdYODHdKAPH",
      "dLAMEDHdMEM-QOPHdNUNdSAMEKHdPEdSADHEdSHINdTAW"]⟩,
    ⟨0x10b99, ["aPSALTER PAHLAVI SECTION MARKcTURNED SECTION MARKcFOUR DOTS WITH CROSSfDOT"]⟩,
    ⟨0x10ba9, ["aPSALTER PAHLAVI NUMBER ONEdTWOdTHREEdFOURdTENdTWENTYdONE HUNDRED"]⟩]

def namesFrom10C00 : List NameRun :=
  [⟨0x10c00, ["aOLD TURKIC LETTER ORKHON AdYENISEI AeAEdORKHON IdYENISEI IeEdORKHON OeOE",
      "dYENISEI OEdORKHON ABdYENISEI ABdORKHON AEBdYENISEI AEBdORKHON AGdYENISEI AGdORKHON AEG",
      "dYENISEI AEGdORKHON ADdYENISEI ADdORKHON AEDeEZdYENISEI EZdORKHON AYdYENISEI AY",
      "dORKHON AEYdYENISEI AEYdORKHON AEKdYENISEI AEKdORKHON OEKdYENISEI OEKdORKHON AL",
      "dYENISEI ALdORKHON AELeELTeEMeANeAENdYENISEI AENdORKHON ENTdYENISEI ENTdORKHON ENC",
      "dYENISEI ENCdORKHON ENYdYENISEI ENYeANGdORKHON ENGdYENISEI AENGdORKHON EPeOPeICeEC",
      "dYENISEI ECdORKHON AQdYENISEI AQdORKHON IQdYENISEI IQdORKHON OQdYENISEI OQdORKHON AR",
      "dYENISEI ARdORKHON AEReASeAESeASHdYENISEI ASHdORKHON ESHdYENISEI ESHdORKHON AT",
      "dYENISEI ATdORKHON AETdYENISEI AETdORKHON OTeBASH"]⟩,
    ⟨0x10c80, ["aOLD HUNGARIAN CAPITAL LETTER AeAAeEBeAMBeECeENCeECSeEDeANDeEeCLOSE EeEEeEFeEG",
      "eEGYeEHeIeIIeEJeEKeAKeUNKeELeELYeEMeENeENYeOeOOeNIKOLSBURG OEeRUDIMENTA OEeOEEeEPeEMP",
      "eEReSHORT EReESeESZeETeENTeETYeECHeUeUUeNIKOLSBURG UEeRUDIMENTA UEeEVeEZeEZS",
      "eENT-SHAPED SIGNeUS"]⟩,
    ⟨0x10cc0, ["aOLD HUNGARIAN SMALL LETTER AeAAeEBeAMBeECeENCeECSeEDeANDeEeCLOSE EeEEeEFeEGeEGY",
      "eEHeIeIIeEJeEKeAKeUNKeELeELYeEMeENeENYeOeOOeNIKOLSBURG OEeRUDIMENTA OEeOEEeEPeEMPeER",
      "eSHORT EReESeESZeETeENTeETYeECHeUeUUeNIKOLSBURG UEeRUDIMENTA UEeEVeEZeEZS",
      "eENT-SHAPED SIGNeUS"]⟩,
    ⟨0x10cfa, ["aOLD HUNGARIAN NUMBER ONEdFIVEdTENdFIFTYdONE HUNDREDeTHOUSAND",
      "aHANIFI ROHINGYA LETTER AdBAdPAdTAdTTAdJAdCAdHAdKHAdFAdDAdDDAdRAdRRAdZAdSAdSHAdKAdGAdLA",
      "dMAdNAdWAdKINNA WAdYAdKINNA YAdNGAdNYAdVAcVOWEL AdIdUdEdOcMARK SAKINdNA KHONNA",
      "cSIGN HARBAHAYdTAHALAdTANAdTASSI"]⟩,
    ⟨0x10d30, ["aHANIFI ROHINGYA DIGIT ZEROdONEdTWOdTHREEdFOURdFIVEdSIXdSEVENdEIGHTdNINE"]⟩,
    ⟨0x10e60, ["aRUMI DIGIT ONEcTWOcTHREEcFOURcFIVEcSIXcSEVENcEIGHTcNINEbNUMBER TENcTWENTY",
      "cTHIRTYcFORTYcFIFTYcSIXTYcSEVENTYcEIGHTYcNINETYcONE HUNDREDcTWO HUNDREDcTHREE HUNDRED",
      "cFOUR HUNDREDcFIVE HUNDREDcSIX HUNDREDcSEVEN HUNDREDcEIGHT HUNDREDcNINE HUNDRED",
      "bFRACTION ONE HALFdQUARTERdTHIRDcTWO THIRDS"]⟩,
    ⟨0x10e80, ["aYEZIDI LETTER ELIFcBEcPEcPHEcTHEcSEcCIMcCHIMcCHHIMcHHAcXAcDALcZALcRAcRHAcZAcJA",
      "cSINcSHINcSADcDADcTAcZEcEYNcXHEYNcFAcVAdALTERNATE FORMcQAFcKAFcKHAFcGAFcLAMcMIMcNUNcUM",
      "cWAWcOWcEWcHAYcYOTcET"]⟩,
    ⟨0x10eab, ["aYEZIDI COMBINING HAMZA MARKcMADDA MARKbHYPHENATION MARK"]⟩,
    ⟨0x10eb0, ["aYEZIDI LETTER LAM WITH DOT ABOVEcYOT WITH CIRCUMFLEX ABOVE"]⟩,
    ⟨0x10f00, ["aOLD SOGDIAN LETTER ALEPHdFINAL ALEPHdBETHdFINAL BETHdGIMELdHEdFINAL HEdWAW",
      "dZAYINdHETHdYODHdKAPHdLAMEDHdMEMdNUNdFINAL NUNfWITH VERTICAL TAILdSAMEKHdAYIN",
      "dALTERNATE AYINdPEdSADHEdFINAL SADHEfWITH VERTICAL TAILdRESH-AYIN-DALETHdSHINdTAW",
      "dFINAL TAWfWITH VERTICAL TAILcNUMBER ONEdTWOdTHREEdFOURdFIVEdTENdTWENTYdTHIRTY",
      "dONE HUNDREDcFRACTION ONE HALFcLIGATURE AYIN-DALETH"]⟩,
    ⟨0x10f30, ["aSOGDIAN LETTER ALEPHcBETHcGIMELcHEcWAWcZAYINcHETHcYODHcKAPHcLAMEDHcMEMcNUN",
      "cSAMEKHcAYINcPEcSADHEcRESH-AYINcSHINcTAWcFETHcLESHbINDEPENDENT SHINbCOMBINING DOT BELOW",
      "cTWO DOTS BELOWcDOT ABOVEcTWO DOTS ABOVEcCURVE ABOVEdBELOWcHOOK ABOVEdBELOW",
      "cLONG HOOK BELOWcRESH BELOWcSTROKE BELOWbNUMBER ONEcTENcTWENTYcONE HUNDRED",
      "bPUNCTUATION TWO VERTICAL BARSfWITH DOTScCIRCLE WITH DOTcTWO CIRCLES WITH DOTS",
      "cHALF CIRCLE WITH DOT"]⟩,
    ⟨0x10f70, ["aOLD UYGHUR LETTER ALEPHdBETHdGIMEL-HETHdWAWdZAYINdFINAL HETHdYODHdKAPHdLAMEDH",
      "dMEMdNUNdSAMEKHdPEdSADHEdRESHdSHINdTAWdLESHcCOMBINING DOT ABOVEeBELOWdTWO DOTS ABOVE",
      "fBELOWcPUNCTUATION BARdTWO BARSeDOTSdFOUR DOTS"]⟩,
    ⟨0x10fb0, ["aCHORASMIAN LETTER ALEPHcSMALL ALEPHcBETHcGIMELcDALETHcHEcWAWcCURLED WAWcZAYIN",
      "cHETHcYODHcKAPHcLAMEDHcMEMcNUNcSAMEKHcAYINcPEcRESHcSHINcTAWbNUMBER ONEcTWOcTHREEcFOUR",
      "cTENcTWENTYcONE HUNDRED"]⟩,
    ⟨0x10fe0, ["aELYMAIC LETTER ALEPHcBETHcGIMELcDALETHcHEcWAWcZAYINcHETHcTETHcYODHcKAPHcLAMEDH",
      "cMEMcNUNcSAMEKHcAYINcPEcSADHEcQOPHcRESHcSHINcTAWbLIGATURE ZAYIN-YODH"]⟩,
    ⟨0x11000, ["aBRAHMI SIGN CANDRABINDUcANUSVARAcVISARGAcJIHVAMULIYAcUPADHMANIYAbLETTER AcAAcI",
      "cIIcUcUUcVOCALIC RdRRdLdLLcEcAIcOcAUcKAcKHAcGAcGHAcNGAcCAcCHAcJAcJHAcNYAcTTAcTTHAcDDA",
      "cDDHAcNNAcTAcTHAcDAcDHAcNAcPAcPHAcBAcBHAcMAcYAcRAcLAcVAcSHAcSSAcSAcHAcLLA",
      "cOLD TAMIL LLLAeRRAeNNNAbVOWEL SIGN AAdBHATTIPROLU AAdIdIIdUdUUdVOCALIC ReRReLeLLdEdAI",
      "dOdAUbVIRAMAbDANDAbDOUBLE DANDAbPUNCTUATION DOTcDOUBLE DOTcLINEcCRESCENT BARcLOTUS"]⟩,
    ⟨0x11052, ["aBRAHMI NUMBER ONEcTWOcTHREEcFOURcFIVEcSIXcSEVENcEIGHTcNINEcTENcTWENTYcTHIRTY",
      "cFORTYcFIFTYcSIXTYcSEVENTYcEIGHTYcNINETYcONE HUNDREDdTHOUSANDbDIGIT ZEROcONEcTWOcTHREE",
      "cFOURcFIVEcSIXcSEVENcEIGHTcNINEbSIGN OLD TAMIL VIRAMAbLETTER OLD TAMIL SHORT EfO",
      "bVOWEL SIGN OLD TAMIL SHORT EgObLETTER OLD TAMIL LLA"]⟩,
    ⟨0x1107f, ["aBRAHMI NUMBER JOINERaKAITHI SIGN CANDRABINDUcANUSVARAcVISARGAbLETTER AcAAcIcII",
      "cUcUUcEcAIcOcAUcKAcKHAcGAcGHAcNGAcCAcCHAcJAcJHAcNYAcTTAcTTHAcDDAcDDDHAcDDHAcRHAcNNAcTA",
      "cTHAcDAcDHAcNAcPAcPHAcBAcBHAcMAcYAcRAcLAcVAcSHAcSSAcSAcHAbVOWEL SIGN AAdIdIIdUdUUdEdAI",
      "dOdAUbSIGN VIRAMAcNUKTAbABBREVIATION SIGNbENUMERATION SIGNbNUMBER SIGNbSECTION MARK",
      "bDOUBLE SECTION MARKbDANDAbDOUBLE DANDAbVOWEL SIGN VOCALIC R"]⟩,
    ⟨0x110cd, ["aKAITHI NUMBER SIGN ABOVE"]⟩,
    ⟨0x110d0, ["aSORA SOMPENG LETTER SAHdTAHdBAHdCAHdDAHdGAHdMAHdNGAHdLAHdNAHdVAHdPAHdYAHdRAH",
      "dHAHdKAHdJAHdNYAHdAHdEEHdIHdUHdOHdEHdMAE"]⟩,
    ⟨0x110f0, ["aSORA SOMPENG DIGIT ZEROdONEdTWOdTHREEdFOURdFIVEdSIXdSEVENdEIGHTdNINE"]⟩,
    ⟨0x11100, ["aCHAKMA SIGN CANDRABINDUcANUSVARAcVISARGAbLETTER AAcIcUcEcKAAcKHAAcGAAcGHAAcNGAA",
      "cCAAcCHAAcJAAcJHAAcNYAAcTTAAcTTHAAcDDAAcDDHAAcNNAAcTAAcTHAAcDAAcDHAAcNAAcPAAcPHAAcBAA",
      "cBHAAcMAAcYYAAcYAAcRAAcLAAcWAAcSAAcHAAbVOWEL SIGN AdIdIIdUdUUdEdAIdOdAUdOIbO MARK",
      "bAU MARKbVIRAMAbMAAYYAA"]⟩,
    ⟨0x11136, ["aCHAKMA DIGIT ZEROcONEcTWOcTHREEcFOURcFIVEcSIXcSEVENcEIGHTcNINEbSECTION MARK",
      "bDANDAbDOUBLE DANDAbQUESTION MARKbLETTER LHAAbVOWEL SIGN AAdEIbLETTER VAA"]⟩,
    ⟨0x11150, ["aMAHAJANI LETTER AcIcUcEcOcKAcKHAcGAcGHAcCAcCHAcJAcJHAcNYAcTTAcTTHAcDDAcDDHAcNNA",
      "cTAcTHAcDAcDHAcNAcPAcPHAcBAcBHAcMAcRAcLAcVAcSAcHAcRRAbSIGN NUKTAbABBREVIATION SIGN",
      "bSECTION MARKbLIGATURE SHRI"]⟩,
    ⟨0x11180, ["aSHARADA SIGN CANDRABINDUcANUSVARAcVISARGAbLETTER AcAAcIcIIcUcUUcVOCALIC RdRRdL",
      "dLLcEcAIcOcAUcKAcKHAcGAcGHAcNGAcCAcCHAcJAcJHAcNYAcTTAcTTHAcDDAcDDHAcNNAcTAcTHAcDAcDHA",
      "cNAcPAcPHAcBAcBHAcMAcYAcRAcLAcLLAcVAcSHAcSSAcSAcHAbVOWEL SIGN AAdIdIIdUdUUdVOCALIC ReRR",
      "eLeLLdEdAIdOdAUbSIGN VIRAMAcAVAGRAHAcJIHVAMULIYAcUPADHMANIYAbOMbDANDAbDOUBLE DANDA",
      "bABBREVIATION SIGNbSEPARATORbSANDHI MARKbSIGN NUKTAbVOWEL MODIFIER MARK",
      "bEXTRA SHORT VOWEL MARKbSUTRA MARKbVOWEL SIGN PRISHTHAMATRA EbSIGN INVERTED CANDRABINDU",
      "bDIGIT ZEROcONEcTWOcTHREEcFOURcFIVEcSIXcSEVENcEIGHTcNINEbEKAMbSIGN SIDDHAMbHEADSTROKE",
      "bCONTINUATION SIGNbSECTION MARK-1cMARK-2"]⟩,
    ⟨0x111e1, ["aSINHALA ARCHAIC DIGIT ONEdTWOdTHREEdFOURdFIVEdSIXdSEVENdEIGHTdNINEcNUMBER TEN",
      "dTWENTYdTHIRTYdFORTYdFIFTYdSIXTYdSEVENTYdEIGHTYdNINETYdONE HUNDREDeTHOUSAND"]⟩,
    ⟨0x11200, ["aKHOJKI LETTER AcAAcIcUcEcAIcOcAUcKAcKHAcGAcGGAcGHAcNGAcCAcCHAcJAcJJA"]⟩,
    ⟨0x11213, ["aKHOJKI LETTER NYAcTTAcTTHAcDDAcDDHAcNNAcTAcTHAcDAcDDDAcDHAcNAcPAcPHAcBAcBBAcBHA",
      "cMAcYAcRAcLAcVAcSAcHAcLLAbVOWEL SIGN AAdIdIIdUdEdAIdOdAUbSIGN ANUSVARAcVIRAMAcNUKTA",
      "cSHADDAbDANDAbDOUBLE DANDAbWORD SEPARATORbSECTION MARKbDOUBLE SECTION MARK",
      "bABBREVIATION SIGNbSIGN SUKUN"]⟩,
    ⟨0x11280, ["aMULTANI LETTER AcIcUcEcKAcKHAcGA"]⟩,
    ⟨0x11288, ["aMULTANI LETTER GHA"]⟩,
    ⟨0x1128a, ["aMULTANI LETTER CAcCHAcJAcJJA"]⟩,
    ⟨0x1128f, ["aMULTANI LETTER NYAcTTAcTTHAcDDAcDDDAcDDHAcNNAcTAcTHAcDAcDHAcNAcPAcPHAcBA"]⟩,
    ⟨0x1129f, ["aMULTANI LETTER BHAcMAcYAcRAcLAcVAcSAcHAcRRAcRHAbSECTION MARK"]⟩,
    ⟨0x112b0, ["aKHUDAWADI LETTER AcAAcIcIIcUcUUcEcAIcOcAUcKAcKHAcGAcGGAcGHAcNGAcCAcCHAcJAcJJA",
      "cJHAcNYAcTTAcTTHAcDDAcDDDAcRRAcDDHAcNNAcTAcTHAcDAcDHAcNAcPAcPHAcBAcBBAcBHAcMAcYAcRAcLA",
      "cVAcSHAcSAcHAbSIGN ANUSVARAbVOWEL SIGN AAdIdIIdUdUUdEdAIdOdAUbSIGN NUKTAcVIRAMA"]⟩,
    ⟨0x112f0, ["aKHUDAWADI DIGIT ZEROcONEcTWOcTHREEcFOURcFIVEcSIXcSEVENcEIGHTcNINE"]⟩,
    ⟨0x11300, ["aGRANTHA SIGN COMBINING ANUSVARA ABOVEcCANDRABINDUcANUSVARAcVISARGA"]⟩,
    ⟨0x11305, ["aGRANTHA LETTER AcAAcIcIIcUcUUcVOCALIC RdL"]⟩,
    ⟨0x1130f, ["aGRANTHA LETTER EEcAI"]⟩,
    ⟨0x11313, ["aGRANTHA LETTER OOcAUcKAcKHAcGAcGHAcNGAcCAcCHAcJAcJHAcNYAcTTAcTTHAcDDAcDDHAcNNA",
      "cTAcTHAcDAcDHAcNA"]⟩,
    ⟨0x1132a, ["aGRANTHA LETTER PAcPHAcBAcBHAcMAcYAcRA"]⟩,
    ⟨0x11332, ["aGRANTHA LETTER LAcLLA"]⟩]

def namesFrom11335 : List NameRun :=
  [⟨0x11335, ["aGRANTHA LETTER VAcSHAcSSAcSAcHA"]⟩,
    ⟨0x1133b, ["aCOMBINING BINDU BELOWaGRANTHA SIGN NUKTAcAVAGRAHAbVOWEL SIGN AAdIdIIdUdUU",
      "dVOCALIC ReRR"]⟩,
    ⟨0x11347, ["aGRANTHA VOWEL SIGN EEdAI"]⟩,
    ⟨0x1134b, ["aGRANTHA VOWEL SIGN OOdAUbSIGN VIRAMA"]⟩,
    ⟨0x11350, ["aGRANTHA OM"]⟩,
    ⟨0x11357, ["aGRANTHA AU LENGTH MARK"]⟩,
    ⟨0x1135d, ["aGRANTHA SIGN PLUTAbLETTER VEDIC ANUSVARAdDOUBLE ANUSVARAcVOCALIC RRdLL",
      "bVOWEL SIGN VOCALIC LeLL"]⟩,
    ⟨0x11366, ["aCOMBINING GRANTHA DIGIT ZEROdONEdTWOdTHREEdFOURdFIVEdSIX"]⟩,
    ⟨0x11370, ["aCOMBINING GRANTHA LETTER AdKAdNAdVIdPA"]⟩,
    ⟨0x11400, ["aNEWA LETTER AcAAcIcIIcUcUUcVOCALIC RdRRdLdLLcEcAIcOcAUcKAcKHAcGAcGHAcNGAcNGHA",
      "cCAcCHAcJAcJHAcNYAcNYHAcTTAcTTHAcDDAcDDHAcNNAcTAcTHAcDAcDHAcNAcNHAcPAcPHAcBAcBHAcMAcMHA",
      "cYAcRAcRHAcLAcLHAcWAcSHAcSSAcSAcHAbVOWEL SIGN AAdIdIIdUdUUdVOCALIC ReRReLeLLdEdAIdOdAU",
      "bSIGN VIRAMAcCANDRABINDUcANUSVARAcVISARGAcNUKTAcAVAGRAHAcFINAL ANUSVARAbOMbSIDDHIbDANDA",
      "bDOUBLE DANDAbCOMMAbGAP FILLERbABBREVIATION SIGNbDIGIT ZEROcONEcTWOcTHREEcFOURcFIVEcSIX",
      "cSEVENcEIGHTcNINEbDOUBLE COMMAbPLACEHOLDER MARK"]⟩,
    ⟨0x1145d, ["aNEWA INSERTION SIGNbSANDHI MARKbLETTER VEDIC ANUSVARAbSIGN JIHVAMULIYA",
      "cUPADHMANIYA"]⟩,
    ⟨0x11480, ["aTIRHUTA ANJIbLETTER AcAAcIcIIcUcUUcVOCALIC RdRRdLdLLcEcAIcOcAUcKAcKHAcGAcGHA",
      "cNGAcCAcCHAcJAcJHAcNYAcTTAcTTHAcDDAcDDHAcNNAcTAcTHAcDAcDHAcNAcPAcPHAcBAcBHAcMAcYAcRAcLA",
      "cVAcSHAcSSAcSAcHAbVOWEL SIGN AAdIdIIdUdUUdVOCALIC ReRReLeLLdEdSHORT EdAIdOdSHORT OdAU",
      "bSIGN CANDRABINDUcANUSVARAcVISARGAcVIRAMAcNUKTAcAVAGRAHAbGVANGbABBREVIATION SIGNbOM"]⟩,
    ⟨0x114d0, ["aTIRHUTA DIGIT ZEROcONEcTWOcTHREEcFOURcFIVEcSIXcSEVENcEIGHTcNINE"]⟩,
    ⟨0x11580, ["aSIDDHAM LETTER AcAAcIcIIcUcUUcVOCALIC RdRRdLdLLcEcAIcOcAUcKAcKHAcGAcGHAcNGAcCA",
      "cCHAcJAcJHAcNYAcTTAcTTHAcDDAcDDHAcNNAcTAcTHAcDAcDHAcNAcPAcPHAcBAcBHAcMAcYAcRAcLAcVAcSHA",
      "cSSAcSAcHAbVOWEL SIGN AAdIdIIdUdUUdVOCALIC ReRR"]⟩,
    ⟨0x115b8, ["aSIDDHAM VOWEL SIGN EdAIdOdAUbSIGN CANDRABINDUcANUSVARAcVISARGAcVIRAMAcNUKTA",
      "cSIDDHAMbDANDAbDOUBLE DANDAbSEPARATOR DOTcBARbREPETITION MARK-1cMARK-2cMARK-3",
      "bEND OF TEXT MARKbSECTION MARK WITH TRIDENT AND U-SHAPED ORNAMENTSgDOTTED CRESCENTS",
      "eRAYS AND DOTTED CRESCENTShDOUBLE CRESCENTShTRIPLE CRESCENTSdDOUBLE RINGfWITH RAYS",
      "dWITH DOUBLE CRESCENTSeTRIPLE CRESCENTSeQUADRUPLE CRESCENTSeSEPTUPLE CRESCENTS",
      "eCIRCLES AND RAYSgTWO ENCLOSURESgFOUR ENCLOSURESbLETTER THREE-CIRCLE ALTERNATE I",
      "cTWO-CIRCLE ALTERNATE IeIIcALTERNATE UbVOWEL SIGN ALTERNATE UeUU"]⟩,
    ⟨0x11600, ["aMODI LETTER AcAAcIcIIcUcUUcVOCALIC RdRRdLdLLcEcAIcOcAUcKAcKHAcGAcGHAcNGAcCAcCHA",
      "cJAcJHAcNYAcTTAcTTHAcDDAcDDHAcNNAcTAcTHAcDAcDHAcNAcPAcPHAcBAcBHAcMAcYAcRAcLAcVAcSHAcSSA",
      "cSAcHAcLLAbVOWEL SIGN AAdIdIIdUdUUdVOCALIC ReRReLeLLdEdAIdOdAUbSIGN ANUSVARAcVISARGA",
      "cVIRAMAcARDHACANDRAbDANDAbDOUBLE DANDAbABBREVIATION SIGNbSIGN HUVA"]⟩,
    ⟨0x11650, ["aMODI DIGIT ZEROcONEcTWOcTHREEcFOURcFIVEcSIXcSEVENcEIGHTcNINE"]⟩,
    ⟨0x11660, ["aMONGOLIAN BIRGA WITH ORNAMENTbROTATED BIRGAbDOUBLE BIRGA WITH ORNAMENT",
      "bTRIPLE BIRGA WITH ORNAMENTbBIRGA WITH DOUBLE ORNAMENTbROTATED BIRGA WITH ORNAMENT",
      "eDOUBLE ORNAMENTbINVERTED BIRGAdWITH DOUBLE ORNAMENTbSWIRL BIRGAdWITH ORNAMENT",
      "eDOUBLE ORNAMENTbTURNED SWIRL BIRGA WITH DOUBLE ORNAMENT"]⟩,
    ⟨0x11680, ["aTAKRI LETTER AcAAcIcIIcUcUUcEcAIcOcAUcKAcKHAcGAcGHAcNGAcCAcCHAcJAcJHAcNYAcTTA",
      "cTTHAcDDAcDDHAcNNAcTAcTHAcDAcDHAcNAcPAcPHAcBAcBHAcMAcYAcRAcLAcVAcSHAcSAcHAcRRA",
      "bSIGN ANUSVARAcVISARGAbVOWEL SIGN AAdIdIIdUdUUdEdAIdOdAUbSIGN VIRAMAcNUKTA",
      "bLETTER ARCHAIC KHAbABBREVIATION SIGN"]⟩,
    ⟨0x116c0, ["aTAKRI DIGIT ZEROcONEcTWOcTHREEcFOURcFIVEcSIXcSEVENcEIGHTcNINE"]⟩,
    ⟨0x11700, ["aAHOM LETTER KAcKHAcNGAcNAcTAcALTERNATE TAcPAcPHAcBAcMAcJAcCHAcTHAcRAcLAcSAcNYA",
      "cHAcAcDAcDHAcGAcALTERNATE GAcGHAcBHAcJHAcALTERNATE BA"]⟩,
    ⟨0x1171d, ["aAHOM CONSONANT SIGN MEDIAL LAeRAeLIGATING RAbVOWEL SIGN AdAAdIdIIdUdUUdEdAWdO",
      "dAIdAMbSIGN KILLER"]⟩,
    ⟨0x11730, ["aAHOM DIGIT ZEROcONEcTWOcTHREEcFOURcFIVEcSIXcSEVENcEIGHTcNINEbNUMBER TENcTWENTY",
      "bSIGN SMALL SECTIONcSECTIONcRULAIbSYMBOL VIbLETTER CAcTTAcTTHAcDDAcDDHAcNNAcLLA"]⟩,
    ⟨0x11800, ["aDOGRA LETTER AcAAcIcIIcUcUUcEcAIcOcAUcKAcKHAcGAcGHAcNGAcCAcCHAcJAcJHAcNYAcTTA",
      "cTTHAcDDAcDDHAcNNAcTAcTHAcDAcDHAcNAcPAcPHAcBAcBHAcMAcYAcRAcLAcVAcSHAcSSAcSAcHAcRRA",
      "bVOWEL SIGN AAdIdIIdUdUUdVOCALIC ReRRdEdAIdOdAUbSIGN ANUSVARAcVISARGAcVIRAMAcNUKTA",
      "bABBREVIATION SIGN"]⟩,
    ⟨0x118a0, ["aWARANG CITI CAPITAL LETTER NGAAeAeWIeYUeYAeYOeIIeUUeEeOeANGeGAeKOeENYeYUJeUC",
      "eENNeODDeTTEeNUNGeDAeATeAMeBUePUeHIYOeHOLOeHORReHAReSSUUeSIIeVIYOcSMALL LETTER NGAAeA",
      "eWIeYUeYAeYOeIIeUUeEeOeANGeGAeKOeENYeYUJeUCeENNeODDeTTEeNUNGeDAeATeAMeBUePUeHIYOeHOLO",
      "eHORReHAReSSUUeSIIeVIYOcDIGIT ZEROdONEdTWOdTHREEdFOURdFIVEdSIXdSEVENdEIGHTdNINE",
      "cNUMBER TENdTWENTYdTHIRTYdFORTYdFIFTYdSIXTYdSEVENTYdEIGHTYdNINETY"]⟩,
    ⟨0x118ff, ["aWARANG CITI OMaDIVES AKURU LETTER AdAAdIdIIdUdUUdE"]⟩,
    ⟨0x11909, ["aDIVES AKURU LETTER O"]⟩,
    ⟨0x1190c, ["aDIVES AKURU LETTER KAdKHAdGAdGHAdNGAdCAdCHAdJA"]⟩,
    ⟨0x11915, ["aDIVES AKURU LETTER NYAdTTA"]⟩,
    ⟨0x11918, ["aDIVES AKURU LETTER DDAdDDHAdNNAdTAdTHAdDAdDHAdNAdPAdPHAdBAdBHAdMAdYAdYYAdRAdLA",
      "dVAdSHAdSSAdSAdHAdLLAdZAcVOWEL SIGN AAeIeIIeUeUUeE"]⟩,
    ⟨0x11937, ["aDIVES AKURU VOWEL SIGN AIeO"]⟩,
    ⟨0x1193b, ["aDIVES AKURU SIGN ANUSVARAdCANDRABINDUdHALANTAcVIRAMAcPREFIXED NASAL SIGN",
      "cMEDIAL YAcINITIAL RAcMEDIAL RAcSIGN NUKTAcDOUBLE DANDAcGAP FILLERcEND OF TEXT MARK"]⟩,
    ⟨0x11950, ["aDIVES AKURU DIGIT ZEROdONEdTWOdTHREEdFOURdFIVEdSIXdSEVENdEIGHTdNINE"]⟩,
    ⟨0x119a0, ["aNANDINAGARI LETTER AcAAcIcIIcUcUUcVOCALIC RdRR"]⟩,
    ⟨0x119aa, ["aNANDINAGARI LETTER EcAIcOcAUcKAcKHAcGAcGHAcNGAcCAcCHAcJAcJHAcNYAcTTAcTTHAcDDA",
      "cDDHAcNNAcTAcTHAcDAcDHAcNAcPAcPHAcBAcBHAcMAcYAcRAcLAcVAcSHAcSSAcSAcHAcLLAcRRA",
      "bVOWEL SIGN AAdIdIIdUdUUdVOCALIC ReRR"]⟩,
    ⟨0x119da, ["aNANDINAGARI VOWEL SIGN EdAIdOdAUbSIGN ANUSVARAcVISARGAcVIRAMAcAVAGRAHAcSIDDHAM",
      "bHEADSTROKEbVOWEL SIGN PRISHTHAMATRA E"]⟩,
    ⟨0x11a00, ["aZANABAZAR SQUARE LETTER AcVOWEL SIGN IeUEeUeEeOEeOeAIeAUeREVERSED IdLENGTH MARK",
      "cLETTER KAdKHAdGAdGHAdNGAdCAdCHAdJAdNYAdTTAdTTHAdDDAdDDHAdNNAdTAdTHAdDAdDHAdNAdPAdPHA",
      "dBAdBHAdMAdTSAdTSHAdDZAdDZHAdZHAdZAd-AdYAdRAdLAdVAdSHAdSSAdSAdHAdKSSA",
      "cFINAL CONSONANT MARKcSIGN VIRAMAdCANDRABINDUeWITH ORNAMENTdCANDRA WITH ORNAMENT",
      "dANUSVARAdVISARGAcCLUSTER-INITIAL LETTER RAcCLUSTER-FINAL LETTER YAeRAeLAeVA",
      "cINITIAL HEAD MARKcCLOSING HEAD MARKcMARK TSHEGdSHADdDOUBLE SHADdLONG TSHEG",
      "cINITIAL DOUBLE-LINED HEAD MARKcCLOSING DOUBLE-LINED HEAD MARKcSUBJOINER"]⟩,
    ⟨0x11a50, ["aSOYOMBO LETTER AbVOWEL SIGN IdUEdUdEdOdOEdAIdAUdVOCALIC ReLcLENGTH MARK",
      "bLETTER KAcKHAcGAcGHAcNGAcCAcCHAcJAcJHAcNYAcTTAcTTHAcDDAcDDHAcNNAcTAcTHAcDAcDHAcNAcPA",
      "cPHAcBAcBHAcMAcTSAcTSHAcDZAcZHAcZAc-AcYAcRAcLAcVAcSHAcSSAcSAcHAcKSSAbSIGN JIHVAMULIYA",
      "cUPADHMANIYAbCLUSTER-INITIAL LETTER RAdLAdSHAdSAbFINAL CONSONANT SIGN GeKeNGeDeNeBeMeR",
      "eLeSHeSe-AbSIGN ANUSVARAcVISARGAbGEMINATION MARKbSUBJOINERbMARK TSHEGcSHADcDOUBLE SHAD",
      "cPLUTAbHEAD MARK WITH MOON AND SUN AND TRIPLE FLAMEiFLAMEgSUNbTERMINAL MARK-1cMARK-2"]⟩,
    ⟨0x11ab0, ["aCANADIAN SYLLABICS NATTILIK HIdHIIdHOdHOOdHAdHAAdSHRIdSHRIIdSHROdSHROOdSHRA",
      "dSHRAAcSPEcSPIcSPOcSPAaPAU CIN HAU LETTER PAeKAeLAeMAeDAeZAeVAeNGAeHAeGAeKHAeSAeBAeCA",
      "eTAeTHAeNAePHAeRAeFAeCHAeAeEeIeOeUeUAeIAeFINAL PfKfTfMfNfLfWfNGfYdRISING TONE LONGeTONE",
      "dSANDHI GLOTTAL STOPdRISING TONE LONG FINALfFINALdSANDHI GLOTTAL STOP FINALeTONE LONG",
      "eTONEfLONG FINALfFINALdMID-LEVEL TONEdGLOTTAL STOP VARIANTdMID-LEVEL TONE LONG FINAL",
      "fFINALdLOW-FALLING TONE LONGeTONEdGLOTTAL STOPdLOW-FALLING TONE LONG FINALfFINAL",
      "dGLOTTAL STOP FINAL"]⟩,
    ⟨0x11c00, ["aBHAIKSUKI LETTER AcAAcIcIIcUcUUcVOCALIC RdRRdL"]⟩]

def namesFrom11C0A : List NameRun :=
  [⟨0x11c0a, ["aBHAIKSUKI LETTER EcAIcOcAUcKAcKHAcGAcGHAcNGAcCAcCHAcJAcJHAcNYAcTTAcTTHAcDDA",
      "cDDHAcNNAcTAcTHAcDAcDHAcNAcPAcPHAcBAcBHAcMAcYAcRAcLAcVAcSHAcSSAcSAcHAbVOWEL SIGN AAdI",
      "dIIdUdUUdVOCALIC ReRReL"]⟩,
    ⟨0x11c38, ["aBHAIKSUKI VOWEL SIGN EdAIdOdAUbSIGN CANDRABINDUcANUSVARAcVISARGAcVIRAMA",
      "cAVAGRAHAbDANDAbDOUBLE DANDAbWORD SEPARATORbGAP FILLER-1cFILLER-2"]⟩,
    ⟨0x11c50, ["aBHAIKSUKI DIGIT ZEROcONEcTWOcTHREEcFOURcFIVEcSIXcSEVENcEIGHTcNINEbNUMBER ONE",
      "cTWOcTHREEcFOURcFIVEcSIXcSEVENcEIGHTcNINEcTENcTWENTYcTHIRTYcFORTYcFIFTYcSIXTYcSEVENTY",
      "cEIGHTYcNINETYbHUNDREDS UNIT MARK"]⟩,
    ⟨0x11c70, ["aMARCHEN HEAD MARKbMARK SHADbLETTER KAcKHAcGAcNGAcCAcCHAcJAcNYAcTAcTHAcDAcNAcPA",
      "cPHAcBAcMAcTSAcTSHAcDZAcWAcZHAcZAc-AcYAcRAcLAcSHAcSAcHAcA"]⟩,
    ⟨0x11c92, ["aMARCHEN SUBJOINED LETTER KAdKHAdGAdNGAdCAdCHAdJAdNYAdTAdTHAdDAdNAdPAdPHAdBAdMA",
      "dTSAdTSHAdDZAdWAdZHAdZA"]⟩,
    ⟨0x11ca9, ["aMARCHEN SUBJOINED LETTER YAdRAdLAdSHAdSAdHAdAbVOWEL SIGN AAdIdUdEdO",
      "bSIGN ANUSVARAcCANDRABINDU"]⟩,
    ⟨0x11d00, ["aMASARAM GONDI LETTER AdAAdIdIIdUdUUdE"]⟩,
    ⟨0x11d08, ["aMASARAM GONDI LETTER AIdO"]⟩,
    ⟨0x11d0b, ["aMASARAM GONDI LETTER AUdKAdKHAdGAdGHAdNGAdCAdCHAdJAdJHAdNYAdTTAdTTHAdDDAdDDHA",
      "dNNAdTAdTHAdDAdDHAdNAdPAdPHAdBAdBHAdMAdYAdRAdLAdVAdSHAdSSAdSAdHAdLLAdKSSAdJNYAdTRA",
      "cVOWEL SIGN AAeIeIIeUeUUeVOCALIC R"]⟩,
    ⟨0x11d3a, ["aMASARAM GONDI VOWEL SIGN E"]⟩,
    ⟨0x11d3c, ["aMASARAM GONDI VOWEL SIGN AIeO"]⟩,
    ⟨0x11d3f, ["aMASARAM GONDI VOWEL SIGN AUcSIGN ANUSVARAdVISARGAdNUKTAdCANDRAdHALANTAcVIRAMA",
      "cREPHAcRA-KARA"]⟩,
    ⟨0x11d50, ["aMASARAM GONDI DIGIT ZEROdONEdTWOdTHREEdFOURdFIVEdSIXdSEVENdEIGHTdNINE"]⟩,
    ⟨0x11d60, ["aGUNJALA GONDI LETTER AdAAdIdIIdUdUU"]⟩,
    ⟨0x11d67, ["aGUNJALA GONDI LETTER EEdAI"]⟩,
    ⟨0x11d6a, ["aGUNJALA GONDI LETTER OOdAUdYAdVAdBAdBHAdMAdKAdKHAdTAdTHAdLAdGAdGHAdDAdDHAdNAdCA",
      "dCHAdTTAdTTHAdLLAdJAdJHAdDDAdDDHAdNGAdPAdPHAdHAdRAdSAcVOWEL SIGN AAeIeIIeUeUU"]⟩,
    ⟨0x11d90, ["aGUNJALA GONDI VOWEL SIGN EEeAI"]⟩,
    ⟨0x11d93, ["aGUNJALA GONDI VOWEL SIGN OOeAUcSIGN ANUSVARAdVISARGAcVIRAMAcOM"]⟩,
    ⟨0x11da0, ["aGUNJALA GONDI DIGIT ZEROdONEdTWOdTHREEdFOURdFIVEdSIXdSEVENdEIGHTdNINE"]⟩,
    ⟨0x11ee0, ["aMAKASAR LETTER KAcGAcNGAcPAcBAcMAcTAcDAcNAcCAcJAcNYAcYAcRAcLAcVAcSAcAbANGKA",
      "bVOWEL SIGN IdUdEdObPASSIMBANGbEND OF SECTION"]⟩,
    ⟨0x11fb0, ["aLISU LETTER YHA"]⟩,
    ⟨0x11fc0, ["aTAMIL FRACTION ONE THREE-HUNDRED-AND-TWENTIETHdONE-HUNDRED-AND-SIXTIETH",
      "dEIGHTIETHdSIXTY-FOURTHdFORTIETHdTHIRTY-SECONDcTHREE EIGHTIETHSdSIXTY-FOURTHS",
      "cONE TWENTIETHdSIXTEENTH-1dSIXTEENTH-2dTENTHdEIGHTHcTHREE TWENTIETHSdSIXTEENTHS",
      "cONE FIFTHdQUARTERdHALF-1dHALF-2cTHREE QUARTERScDOWNSCALING FACTOR KIIZHbSIGN NEL",
      "cCEVITUcAAZHAAKKUcUZHAKKUcMUUVUZHAKKUcKURUNIcPATHAKKUcMUKKURUNIcKAACUcPANAMcPON",
      "cVARAAKANcPAARAMcKUZHIcVELIbWET CULTIVATION SIGNbDRY CULTIVATION SIGNbLAND SIGN",
      "bSALT PAN SIGNbTRADITIONAL CREDIT SIGNcNUMBER SIGNbCURRENT SIGNbAND ODD SIGNbSPENT SIGN",
      "bTOTAL SIGNbIN POSSESSION SIGNbSTARTING FROM SIGNbSIGN MUTHALIYAcVAKAIYARAA"]⟩]

def namesFrom11FFF : List NameRun :=
  [⟨0x11fff, ["aTAMIL PUNCTUATION END OF TEXTaCUNEIFORM SIGN AdTIMES AeBADeGAN2 TENUeHAeIGI",
      "eLAGAR GUNUeMUSHeSAGcA2cABdTIMES ASH2eDUN3 GUNUeGALeGAN2 TENUeHAeIGI GUNUeIMINeLAGAB",
      "eSHESHeU PLUS U PLUS UdGUNUcAB2dTIMES BALAGeGAN2 TENUeME PLUS ENeSHA3eTAK4cADcAK",
      "dTIMES ERIN2eSHITA PLUS GISHcALdTIMES ALeDIM2eGISHeHAeKAD3eKIeSHEeUSHcALANcALEPHcAMAR",
      "dTIMES SHEcANdOVER ANdTHREE TIMESdPLUS NAGA OPPOSING AN PLUS NAGAfSQUAREDcANSHEcAPIN",
      "cARADdTIMES KURcARKABcASAL2cASHdZIDA TENUdKABA TENU",
      "dOVER ASH TUG2 OVER TUG2 TUG2 OVER TUG2 PAPfOVER ASHhCROSSING ASH OVER ASH OVER ASH",
      "cASH2cASHGABcBAcBADcBAG3cBAHAR2cBALdOVER BALcBALAGcBARcBARA2cBIdTIMES AeGAReIGI GUNUcBU",
      "dOVER BU ABfUNdCROSSING BUcBULUGdOVER BULUGcBURcBUR2cDAcDAGdKISIM5 TIMES A PLUS MASH",
      "fAMARfBALAGfBIfGAgPLUS MASHfGIfGIR2fGUDfHAfIRgPLUS LUfKAKfLAfLUgPLUS MASH2fLUMfNE",
      "fPAP PLUS PAPfSIfTAK4fU2 PLUS GIR2fUSHcDAMcDARcDARA3cDARA4cDIcDIBcDIMdTIMES SHEcDIM2",
      "cDINdKASKAL U GUNU DISHcDISHcDUdOVER DUdGUNUdSHESHIGcDUBdTIMES ESH2cDUB2cDUGcDUGUDcDUH",
      "cDUNcDUN3dGUNUeGUNUcDUN4cDUR2cEdTIMES PAPdOVER E NUN OVER NUNcE2",
      "dTIMES A PLUS HA PLUS DAeGAReMIeSALeSHEeUcEDINcEGIRcELcENdTIMES GAN2fTENUeME",
      "dCROSSING ENdOPPOSING ENdSQUAREDcERENcERIN2cESH2cEZENdTIMES AfPLUS LALhTIMES LALeANeBAD",
      "eDUN3 GUNUgGUNUeHAfGUNUeIGI GUNUeKASKALfSQUAREDeKU3eLAeLAL TIMES LALeLIeLUeU2eUDcGA",
      "dGUNUcGA2dTIMES A PLUS DA PLUS HAgHAgIGIeAB2 TENU PLUS TABeANeASHeASH2 PLUS GALeBAD",
      "eBAR PLUS RAeBURfPLUS RAeDAeDIeDIM TIMES SHEeDUBeELfPLUS LAeENfTIMES GAN2 TENU",
      "eGAN2 TENUeGAReGIeGI4fPLUS AeGIR2 PLUS SUeHA PLUS LU PLUS ESH2eHALfPLUS LAeHI PLUS LI",
      "eHUB2eIGI GUNUeISH PLUS HU PLUS ASHeKAKeKASKALeKIDfPLUS LALeKU3 PLUS ANeLAeME PLUS EN",
      "eMIeNUNfOVER NUNePAeSALeSAReSHEfPLUS TUReSHIDeSUMeTAK4eUeUDfPLUS DUdOVER GA2cGABA",
      "dCROSSING GABAcGADdOVER GAD GAR OVER GARcGALdGAD OVER GAD GAR OVER GARcGALAMcGAMcGAN",
      "cGAN2dTENUdOVER GAN2dCROSSING GAN2cGARcGAR3cGASHANcGESHTINdTIMES KURcGIdTIMES EeU",
      "dCROSSING GIcGI4dOVER GI4dCROSSING GI4cGIDIMcGIR2dGUNUcGIR3dTIMES A PLUS IGIeGAN2 TENU",
      "eIGIeLU PLUS IGIePAcGISALcGISHdCROSSING GISHdTIMES BADeTAK4dTENUcGUdCROSSING GUcGU2",
      "dTIMES KAKfTIMES IGI GUNUeNUNeSAL PLUS TUG2dGUNUcGUDdTIMES A PLUS KUReKUR",
      "dOVER GUD LUGALcGULcGUMdTIMES SHEcGURcGUR7cGURUNcGURUSHcHAdTENUdGUNUcHALcHIdTIMES ASH",
      "eASH2eBADeDISHeGADeKINeNUNeSHEeUcHUcHUB2dTIMES ANeHALeKASKALeLISHeUDcHUL2cIdAcIBcIDIM",
      "dOVER IDIM BURfSQUAREDcIGcIGIdDIBdRIdOVER IGI SHIR OVER SHIR UD OVER UDdGUNUcIL",
      "dTIMES GAN2 TENUcIL2cIMdTIMES TAK4dCROSSING IMdOPPOSING IMdSQUAREDcIMINcINcIRcISHcKA",
      "dTIMES AeADfPLUS KU3eASH2eBADeBALAGeBAReBIeERIN2eESH2eGAeGALeGAN2 TENUeGAR",
      "fPLUS SHA3 PLUS AeGIeGIR2eGISH PLUS SARfCROSSING GISHeGUeGUR7eIGIeIMeKAKeKIeKIDeLIeLU",
      "eMEfPLUS DUgGIgTEeMIfPLUS NUNUZeNEeNUNePIeRUeSAeSAReSHAeSHEeSHIDeSHUeSIGeSUHUReTAReUeU2",
      "eUDeUMUM TIMES PAeUSHeZIcKA2dCROSSING KA2cKABcKAD2cKAD3cKAD4cKAD5dOVER KAD5cKAK",
      "dTIMES IGI GUNUcKALdTIMES BADdCROSSING KALcKAM2cKAM4cKASKAL",
      "dLAGAB TIMES U OVER LAGAB TIMES UdOVER KASKAL LAGAB TIMES U OVER LAGAB TIMES UcKESH2cKI",
      "dTIMES BADeUeUDcKIDcKINcKISALcKISHcKISIM5dOVER KISIM5cKU",
      "dOVER HI TIMES ASH2 KU OVER HI TIMES ASH2cKU3cKU4dVARIANT FORMcKU7cKULdGUNUcKUNcKUR",
      "dOPPOSING KURcKUSHU2cKWU318cLAcLAGABdTIMES AfPLUS DA PLUS HAgGARgLALeALeAN",
      "eASH ZIDA TENUeBADeBIeDAReENeGAeGAReGUDfPLUS GUDeHAeHALeHI TIMES NUNeIGI GUNUeIM",
      "fPLUS HAgLUeKIeKINeKU3eKULfPLUS HI PLUS AeLAGABeLISHeLUeLULeMEfPLUS ENeMUSHeNE",
      "eSHE PLUS SUMeSHITA PLUS GISH PLUS ERIN2hTENUeSHU2fPLUS SHU2eSUMeTAGeTAK4",
      "eTE PLUS A PLUS SU PLUS NAeUfPLUS AgU PLUS UeU2 PLUS ASHeUDeUSHdSQUAREDcLAGARdTIMES SHE",
      "fPLUS SUMdGUNUeOVER LAGAR GUNU SHEcLAHSHUcLALdTIMES LALcLAMdTIMES KURfPLUS RUcLIcLIL",
      "cLIMMU2cLISHcLUdTIMES BADcLU2dTIMES ALeBADeESH2fTENUeGAN2 TENUeHI TIMES BADeIMeKAD2",
      "eKAD3fPLUS ASHeKIeLA PLUS ASHeLAGABeME PLUS ENeNEeNUeSI PLUS ASHeSIK2 PLUS BUeTUG2dTENU",
      "dCROSSING LU2dOPPOSING LU2dSQUAREDdSHESHIGcLU3cLUGALdOVER LUGALdOPPOSING LUGALdSHESHIG",
      "cLUHcLULcLUMdOVER LUMfGAR OVER GARcMAdTIMES TAK4dGUNUcMA2cMAHcMARcMASHcMASH2cMEcMEScMI",
      "cMINcMUdOVER MUcMUGdGUNUcMUNSUBcMURGU2cMUSHdTIMES AeKUReZAdOVER MUSHfTIMES A PLUS NA",
      "dCROSSING MUSHcMUSH3dTIMES AfPLUS DIeDIdGUNUcNAcNA2cNAGAdINVERTEDdTIMES SHU TENU",
      "dOPPOSING NAGAcNAGARcNAM NUTILLUcNAMcNAM2cNEdTIMES AeUDdSHESHIGcNIdTIMES EcNI2cNIM",
      "dTIMES GAN2 TENUeGAR PLUS GAN2 TENUcNINDA2dTIMES ANeASHfPLUS ASHeGUDeME PLUS GAN2 TENU",
      "eNEeNUNeSHEfPLUS A ANgASHhPLUS ASHeU2 PLUS ASHeUSHcNISAGcNUcNU11cNUNdLAGAR TIMES GAR",
      "fMASHfSALgOVER NUN LAGAR TIMES SALfUSHdTENUdOVER NUNdCROSSING NUNfLAGAR OVER LAGAR",
      "cNUNUZdAB2 TIMES ASHGABfBIfDUGfGUDfIGI GUNUfKAD3fLAfNEfSILA3fU2dKISIM5 TIMES BIgUcPA",
      "cPADcPANcPAPcPESH2cPIdTIMES AeABeBIeBUeEeIeIBeUeU2dCROSSING PIcPIRIGdTIMES KALeUDeZA",
      "dOPPOSING PIRIGcRAcRABcRIcRUcSAcSAG NUTILLUcSAGdTIMES AeDUeDUBeHAeKAKeKUReLUMeMIeNUN",
      "eSALeSHIDeTABeU2eUBeUMeUReUSHdOVER SAGdGUNUcSALdLAGAB TIMES ASH2cSANGA2cSARcSHAcSHA3",
      "dTIMES AeBADeGISHeNEeSHU2eTUReUfPLUS AcSHA6cSHAB6cSHAR2cSHEdHU",
      "dOVER SHE GAD OVER GAD GAR OVER GARfTAB OVER TAB GAR OVER GARcSHEG9cSHENcSHESHcSHESH2",
      "cSHESHLAMcSHIDdTIMES AeIMcSHIMdTIMES AeBALeBULUGeDINeGAReIGIfGUNUeKUSHU2eLULeMUGeSAL",
      "cSHINIGcSHIRdTENUdOVER SHIR BUR OVER BURcSHITAcSHUdOVER INVERTED SHUcSHU2cSHUBURcSI",
      "dGUNUcSIGcSIG4dOVER SIG4 SHU2cSIK2cSILA3cSUdOVER SUcSUDcSUD2cSUHURcSUMcSUMASHcSURcSUR9",
      "cTAdASTERISKdTIMES HIeMIdGUNUcTABdOVER TAB NI OVER NI DISH OVER DISHdSQUAREDcTAG",
      "dTIMES BIeGUDeSHEeSHUeTUG2eUDcTAK4cTARcTEdGUNUcTIdTENUcTILcTIRdTIMES TAK4dOVER TIR",
      "fGAD OVER GAD GAR OVER GARcTUcTUG2cTUKcTUMcTURdOVER TUR ZA OVER ZAcUdGUDdU U",
      "dOVER U PA OVER PA GAR OVER GARfSUR OVER SURfU REVERSED OVER U REVERSEDcU2cUBcUDdKUSHU2",
      "dTIMES BADeMIeU PLUS U PLUS UjGUNUdGUNUdSHESHIGeTIMES BADcUDUGcUMdTIMES LAGAB",
      "eME PLUS DAeSHA3eUcUMBINcUMUMdTIMES KASKALePAcUNdGUNUcURdCROSSING URdSHESHIGcUR2",
      "dTIMES A PLUS HAgNAeALeHAeNUNeU2fPLUS ASHgBIcUR4cURIcURI3cURUdTIMES AeASHGABeBAReDUNeGA",
      "eGALeGAN2 TENUeGAReGUeHAeIGIeIMeISHeKIeLUMeMINePAeSHEeSIG4eTUeU PLUS GUDeUDeURUDAcURUDA",
      "dTIMES UcUSHdTIMES AeKUeKUReTAK4cUSHXcUSH2cUSHUMXcUTUKIcUZ3dTIMES KASKALcUZUcZAdTENU",
      "dSQUARED TIMES KURcZAGcZAMXcZE2cZIdOVER ZIcZI3cZIBdKABA TENUcZIGcZIZ2cZUcZU5dTIMES A",
      "cZUBURcZUMcKAP ELAMITEcAB TIMES NUNcAB2 TIMES AcAMAR TIMES KUG",
      "cDAG KISIM5 TIMES U2 PLUS MASHcDAG3cDISH PLUS SHUcDUB TIMES SHEcEZEN TIMES GUDeSHE",
      "cGA2 TIMES AN PLUS KAK PLUS AeASH2cGE22cGIGcHUSHcKA TIMES ANSHEeASH3eGISHeGUD",
      "eHI TIMES ASH2eLUMePAeSHULeTUeUR2cLAGAB TIMES GIcLU2 SHESHIG TIMES BAD",
      "dTIMES ESH2 PLUS LALeSHUcMESHcMUSH3 TIMES ZAcNA4cNINcNIN9cNINDA2 TIMES BALeGI",
      "cNU11 ROTATED NINETY DEGREEScPESH2 ASTERISKcPIR2cSAG TIMES IGI GUNUcTI2cUM TIMES MEcU U"]⟩,
    ⟨0x12400, ["aCUNEIFORM NUMERIC SIGN TWO ASHdTHREE ASHdFOUR ASHdFIVE ASHdSIX ASHdSEVEN ASH",
      "dEIGHT ASHdNINE ASHdTHREE DISHdFOUR DISHdFIVE DISHdSIX DISHdSEVEN DISHdEIGHT DISH",
      "dNINE DISHdFOUR UdFIVE UdSIX UdSEVEN UdEIGHT UdNINE UdONE GESH2dTWO GESH2dTHREE GESH2",
      "dFOUR GESH2dFIVE GESH2dSIX GESH2dSEVEN GESH2dEIGHT GESH2dNINE GESH2dONE GESHUdTWO GESHU",
      "dTHREE GESHUdFOUR GESHUdFIVE GESHUdTWO SHAR2dTHREE SHAR2fVARIANT FORMdFOUR SHAR2",
      "dFIVE SHAR2dSIX SHAR2dSEVEN SHAR2dEIGHT SHAR2dNINE SHAR2dONE SHARUdTWO SHARU",
      "dTHREE SHARUfVARIANT FORMdFOUR SHARUdFIVE SHARUdSHAR2 TIMES GAL PLUS DISHhMINdONE BURU",
      "dTWO BURUdTHREE BURUfVARIANT FORMdFOUR BURUdFIVE BURUdTHREE VARIANT FORM ESH16gESH21",
      "dFOUR VARIANT FORM LIMMUgLIMMU4gLIMMU AhBdSIX VARIANT FORM ASH9",
      "dSEVEN VARIANT FORM IMIN3gIMIN AhBdEIGHT VARIANT FORM USSUgUSSU3",
      "dNINE VARIANT FORM ILIMMUgILIMMU3gILIMMU4gILIMMU AdTWO ASH TENUdTHREE ASH TENU",
      "dFOUR ASH TENUdFIVE ASH TENUdSIX ASH TENUdONE BAN2dTWO BAN2dTHREE BAN2dFOUR BAN2",
      "fVARIANT FORMdFIVE BAN2fVARIANT FORMdNIGIDAMINdNIGIDAESHdONE ESHE3dTWO ESHE3",
      "dONE THIRD DISHdTWO THIRDS DISHdFIVE SIXTHS DISHdONE THIRD VARIANT FORM A",
      "dTWO THIRDS VARIANT FORM AdONE EIGHTH ASHeQUARTER ASHdOLD ASSYRIAN ONE SIXTHgQUARTER",
      "dONE QUARTER GUReHALF GURdELAMITE ONE THIRDeTWO THIRDSeFORTYeFIFTYdFOUR U VARIANT FORM",
      "dFIVE U VARIANT FORMdSIX U VARIANT FORMdSEVEN U VARIANT FORMdEIGHT U VARIANT FORM",
      "dNINE U VARIANT FORM"]⟩,
    ⟨0x12470, ["aCUNEIFORM PUNCTUATION SIGN OLD ASSYRIAN WORD DIVIDERdVERTICAL COLON",
      "dDIAGONAL COLONeTRICOLONeQUADCOLON"]⟩]

def namesFrom12480 : List NameRun :=
  [⟨0x12480, ["aCUNEIFORM SIGN AB TIMES NUN TENUeSHU2cAD TIMES ESH2cBAD TIMES DISH TENU",
      "cBAHAR2 TIMES AB2eNIeZAcBU OVER BU TIMES NA2cDA TIMES TAK4cDAG TIMES KURcDIM TIMES IGI",
      "eU U UcDIM2 TIMES UDcDUG TIMES ANSHEeASHfAT LEFTeDINeDUNeERIN2eGAeGIeGIR2 GUNUeGISHeHA",
      "eHIeIGI GUNUeKASKALeKUReKUSHU2fPLUS KASKALeLAK-020eLAMfTIMES KUReLUH PLUS GISHeMASHeMES",
      "eMIeNIePIeSHEeSI GUNUcE2 TIMES KURePAPcERIN2 XcESH2 CROSSING ESH2",
      "cEZEN SHESHIG TIMES ASHfHIfIGI GUNUfLAfLALfMEfMESfSUdTIMES SUcGA2 TIMES BAHAR2eDIM GUNU",
      "eDUG TIMES IGI GUNUgKASKALeERENeGAeGAR PLUS DIgNEeHA PLUS AeKUSHU2 PLUS KASKALeLAM",
      "fTIMES KUReLUHeMUSHeNEfPLUS E2gGIeSHIMeZIZ2cGABA ROTATED NINETY DEGREEScGESHTIN TIMES U",
      "cGISH TIMES GISH CROSSING GISHcGU2 TIMES IGI GUNUcGUD PLUS GISH TIMES TAK4cHA TENU GUNU",
      "cHI TIMES ASH OVER HI TIMES ASHcKA TIMES BUeKAeU U UeURcLAGAB TIMES ZU OVER ZUcLAK-003",
      "cLAK-021cLAK-025cLAK-030cLAK-050cLAK-051cLAK-062cLAK-079 OVER LAK-079 GUNUcLAK-080",
      "cLAK-081 OVER LAK-081cLAK-092cLAK-130cLAK-142cLAK-210cLAK-219cLAK-220cLAK-225cLAK-228",
      "cLAK-238cLAK-265cLAK-266cLAK-343cLAK-347cLAK-348cLAK-383cLAK-384cLAK-390cLAK-441",
      "cLAK-449dTIMES GUeIGIePAP PLUS LU3gPAP PLUS LU3eU2 PLUS BAcLAK-450cLAK-457cLAK-470",
      "cLAK-483cLAK-490cLAK-492cLAK-493cLAK-495cLAK-550cLAK-608cLAK-617dTIMES ASHeBAD",
      "eDUN3 GUNU GUNUeKU3eLAeTAReTEeU2eUDeURUDAcLAK-636cLAK-648dTIMES DUBeGAeIGIfGUNUeNI",
      "ePAP PLUS PAP PLUS LU3eSHESH PLUS KIeUDeURUDAcLAK-724cLAK-749cLU2 GUNU TIMES ASH",
      "dTIMES DISHeHALePAPfPLUS PAP PLUS LU3eTAK4cMI PLUS ZA7cMUSH OVER MUSH TIMES GAgKAK",
      "cNINDA2 TIMES DIM GUNUeGISHeGULeHIeKESH2eLAK-050eMASHePAP PLUS PAPeUfPLUS UeURUDA",
      "cSAG GUNU TIMES HAdTIMES ENeSHE AT LEFTeTAK4cSHA6 TENUcSHE OVER SHEdPLUS HUB2eNAM2eSAR",
      "cSHU2 PLUS DUG TIMES NIeE2 TIMES ANcSI TIMES TAK4cTAK4 PLUS SAGcTUM TIMES GAN2 TENU",
      "eTHREE DISHcUR2 INVERTEDdTIMES UDcURU TIMES DARA3eLAK-668eLU3cZA7cZU OVER ZU PLUS SAR",
      "cZU5 TIMES THREE DISH TENU"]⟩,
    ⟨0x12f90, ["aCYPRO-MINOAN SIGN CM001cCM002cCM004cCM005cCM006cCM007cCM008cCM009cCM010cCM011",
      "cCM012cCM012BcCM013cCM015cCM017cCM019cCM021cCM023cCM024cCM025cCM026cCM027cCM028cCM029",
      "cCM030cCM033cCM034cCM035cCM036cCM037cCM038cCM039cCM040cCM041cCM044cCM046cCM047cCM049",
      "cCM050cCM051cCM052cCM053cCM054cCM055cCM056cCM058cCM059cCM060cCM061cCM062cCM063cCM064",
      "cCM066cCM067cCM068cCM069cCM070cCM071cCM072cCM073cCM074cCM075cCM075BcCM076cCM078cCM079",
      "cCM080cCM081cCM082cCM083cCM084cCM085cCM086cCM087cCM088cCM089cCM090cCM091cCM092cCM094",
      "cCM095cCM096cCM097cCM098cCM099cCM100cCM101cCM102cCM103cCM104cCM105cCM107cCM108cCM109",
      "cCM110cCM112cCM114cCM301cCM302"]⟩,
    ⟨0x13000, ["aEGYPTIAN HIEROGLYPH A001cA002cA003cA004cA005cA005AcA006cA006AcA006BcA007cA008",
      "cA009cA010cA011cA012cA013cA014cA014AcA015cA016cA017cA017AcA018cA019cA020cA021cA022cA023",
      "cA024cA025cA026cA027cA028cA029cA030cA031cA032cA032AcA033cA034cA035cA036cA037cA038cA039",
      "cA040cA040AcA041cA042cA042AcA043cA043AcA044cA045cA045AcA046cA047cA048cA049cA050cA051",
      "cA052cA053cA054cA055cA056cA057cA058cA059cA060cA061cA062cA063cA064cA065cA066cA067cA068",
      "cA069cA070cB001cB002cB003cB004cB005cB005AcB006cB007cB008cB009cC001cC002cC002AcC002B",
      "cC002CcC003cC004cC005cC006cC007cC008cC009cC010cC010AcC011cC012cC013cC014cC015cC016cC017",
      "cC018cC019cC020cC021cC022cC023cC024cD001cD002cD003cD004cD005cD006cD007cD008cD008AcD009",
      "cD010cD011cD012cD013cD014cD015cD016cD017cD018cD019cD020cD021cD022cD023cD024cD025cD026",
      "cD027cD027AcD028cD029cD030cD031cD031AcD032cD033cD034cD034AcD035cD036cD037cD038cD039",
      "cD040cD041cD042cD043cD044cD045cD046cD046AcD047cD048cD048AcD049cD050cD050AcD050BcD050C",
      "cD050DcD050EcD050FcD050GcD050HcD050IcD051cD052cD052AcD053cD054cD054AcD055cD056cD057",
      "cD058cD059cD060cD061cD062cD063cD064cD065cD066cD067cD067AcD067BcD067CcD067DcD067EcD067F",
      "cD067GcD067HcE001cE002cE003cE004cE005cE006cE007cE008cE008AcE009cE009AcE010cE011cE012",
      "cE013cE014cE015cE016cE016AcE017cE017AcE018cE019cE020cE020AcE021cE022cE023cE024cE025",
      "cE026cE027cE028cE028AcE029cE030cE031cE032cE033cE034cE034AcE036cE037cE038cF001cF001A",
      "cF002cF003cF004cF005cF006cF007cF008cF009cF010cF011cF012cF013cF013AcF014cF015cF016cF017",
      "cF018cF019cF020cF021cF021AcF022cF023cF024cF025cF026cF027cF028cF029cF030cF031cF031AcF032",
      "cF033cF034cF035cF036cF037cF037AcF038cF038AcF039cF040cF041cF042cF043cF044cF045cF045A",
      "cF046cF046AcF047cF047AcF048cF049cF050cF051cF051AcF051BcF051CcF052cF053cG001cG002cG003",
      "cG004cG005cG006cG006AcG007cG007AcG007BcG008cG009cG010cG011cG011AcG012cG013cG014cG015",
      "cG016cG017cG018cG019cG020cG020AcG021cG022cG023cG024cG025cG026cG026AcG027cG028cG029cG030",
      "cG031cG032cG033cG034cG035cG036cG036AcG037cG037AcG038cG039cG040cG041cG042cG043cG043A",
      "cG044cG045cG045AcG046cG047cG048cG049cG050cG051cG052cG053cG054cH001cH002cH003cH004cH005",
      "cH006cH006AcH007cH008cI001cI002cI003cI004cI005cI005AcI006cI007cI008cI009cI009AcI010",
      "cI010AcI011cI011AcI012cI013cI014cI015cK001cK002cK003cK004cK005cK006cK007cK008cL001cL002",
      "cL002AcL003cL004cL005cL006cL006AcL007cL008cM001cM001AcM001BcM002cM003cM003AcM004cM005",
      "cM006cM007cM008cM009cM010cM010AcM011cM012cM012AcM012BcM012CcM012DcM012EcM012FcM012G",
      "cM012HcM013cM014cM015cM015AcM016cM016AcM017cM017AcM018cM019cM020cM021cM022cM022AcM023",
      "cM024cM024AcM025cM026cM027cM028cM028AcM029cM030cM031cM031AcM032cM033cM033AcM033BcM034",
      "cM035cM036cM037cM038cM039cM040cM040AcM041cM042cM043cM044cN001cN002cN003cN004cN005cN006",
      "cN007cN008cN009cN010cN011cN012cN013cN014cN015cN016cN017cN018cN018AcN018BcN019cN020cN021",
      "cN022cN023cN024cN025cN025AcN026cN027cN028cN029cN030cN031cN032cN033cN033AcN034cN034A",
      "cN035cN035AcN036cN037cN037AcN038cN039cN040cN041cN042cNL001cNL002cNL003cNL004cNL005",
      "cNL005AcNL006cNL007cNL008cNL009cNL010cNL011cNL012cNL013cNL014cNL015cNL016cNL017cNL017A",
      "cNL018cNL019cNL020cNU001cNU002cNU003cNU004cNU005cNU006cNU007cNU008cNU009cNU010cNU010A",
      "cNU011cNU011AcNU012cNU013cNU014cNU015cNU016cNU017cNU018cNU018AcNU019cNU020cNU021cNU022",
      "cNU022AcO001cO001AcO002cO003cO004cO005cO005AcO006cO006AcO006BcO006CcO006DcO006EcO006F",
      "cO007cO008cO009cO010cO010AcO010BcO010CcO011cO012cO013cO014cO015cO016cO017cO018cO019",
      "cO019AcO020cO020AcO021cO022cO023cO024cO024AcO025cO025AcO026cO027cO028cO029cO029AcO030",
      "cO030AcO031cO032cO033cO033AcO034cO035cO036cO036AcO036BcO036CcO036DcO037cO038cO039cO040",
      "cO041cO042cO043cO044cO045cO046cO047cO048cO049cO050cO050AcO050BcO051cP001cP001AcP002",
      "cP003cP003AcP004cP005cP006cP007cP008cP009cP010cP011cQ001cQ002cQ003cQ004cQ005cQ006cQ007",
      "cR001cR002cR002AcR003cR003AcR003BcR004cR005cR006cR007cR008cR009cR010cR010AcR011cR012",
      "cR013cR014cR015cR016cR016AcR017cR018cR019cR020cR021cR022cR023cR024cR025cR026cR027cR028",
      "cR029cS001cS002cS002AcS003cS004cS005cS006cS006AcS007cS008cS009cS010cS011cS012cS013cS014",
      "cS014AcS014BcS015cS016cS017cS017AcS018cS019cS020cS021cS022cS023cS024cS025cS026cS026A",
      "cS026BcS027cS028cS029cS030cS031cS032cS033cS034cS035cS035AcS036cS037cS038cS039cS040cS041",
      "cS042cS043cS044cS045cS046cT001cT002cT003cT003AcT004cT005cT006cT007cT007AcT008cT008A",
      "cT009cT009AcT010cT011cT011AcT012cT013cT014cT015cT016cT016AcT017cT018cT019cT020cT021",
      "cT022cT023cT024cT025cT026cT027cT028cT029cT030cT031cT032cT032AcT033cT033AcT034cT035cT036",
      "cU001cU002cU003cU004cU005cU006cU006AcU006BcU007cU008cU009cU010cU011cU012cU013cU014cU015",
      "cU016cU017cU018cU019cU020cU021cU022cU023cU023AcU024cU025cU026cU027cU028cU029cU029AcU030",
      "cU031cU032cU032AcU033cU034cU035cU036cU037cU038cU039cU040cU041cU042cV001cV001AcV001B",
      "cV001CcV001DcV001EcV001FcV001GcV001HcV001IcV002cV002AcV003cV004cV005cV006cV007cV007A",
      "cV007BcV008cV009cV010cV011cV011AcV011BcV011CcV012cV012AcV012BcV013cV014cV015cV016cV017",
      "cV018cV019cV020cV020AcV020BcV020CcV020DcV020EcV020FcV020GcV020HcV020IcV020JcV020KcV020L",
      "cV021cV022cV023cV023AcV024cV025cV026cV027cV028cV028AcV029cV029AcV030cV030AcV031cV031A",
      "cV032cV033cV033AcV034cV035cV036cV037cV037AcV038cV039cV040cV040AcW001cW002cW003cW003A",
      "cW004cW005cW006cW007cW008cW009cW009AcW010cW010AcW011cW012cW013cW014cW014AcW015cW016",
      "cW017cW017AcW018cW018AcW019cW020cW021cW022cW023cW024cW024AcW025cX001cX002cX003cX004",
      "cX004AcX004BcX005cX006cX006AcX007cX008cX008AcY001cY001AcY002cY003cY004cY005cY006cY007",
      "cY008cZ001cZ002cZ002AcZ002BcZ002CcZ002DcZ003cZ003AcZ003BcZ004cZ004AcZ005cZ005AcZ006",
      "cZ007cZ008cZ009cZ010cZ011cZ012cZ013cZ014cZ015cZ015AcZ015BcZ015CcZ015DcZ015EcZ015FcZ015G",
      "cZ015HcZ015IcZ016cZ016AcZ016BcZ016CcZ016DcZ016EcZ016FcZ016GcZ016HcAA001cAA002cAA003",
      "cAA004cAA005cAA006cAA007cAA007AcAA007BcAA008cAA009cAA010cAA011cAA012cAA013cAA014cAA015",
      "cAA016cAA017cAA018cAA019cAA020cAA021cAA022cAA023cAA024cAA025cAA026cAA027cAA028cAA029",
      "cAA030cAA031cAA032"]⟩,
    ⟨0x13430, ["aEGYPTIAN HIEROGLYPH VERTICAL JOINERcHORIZONTAL JOINERcINSERT AT TOP START",
      "eBOTTOM STARTeTOP ENDeBOTTOM ENDcOVERLAY MIDDLEcBEGIN SEGMENTcEND SEGMENT"]⟩]

def namesFrom14400 : List NameRun :=
  [⟨0x14400, ["aANATOLIAN HIEROGLYPH A001cA002cA003cA004cA005cA006cA007cA008cA009cA010cA010A",
      "cA011cA012cA013cA014cA015cA016cA017cA018cA019cA020cA021cA022cA023cA024cA025cA026cA026A",
      "cA027cA028cA029cA030cA031cA032cA033cA034cA035cA036cA037cA038cA039cA039AcA040cA041cA041A",
      "cA042cA043cA044cA045cA045AcA046cA046AcA046BcA047cA048cA049cA050cA051cA052cA053cA054",
      "cA055cA056cA057cA058cA059cA060cA061cA062cA063cA064cA065cA066cA066AcA066BcA066CcA067",
      "cA068cA069cA070cA071cA072cA073cA074cA075cA076cA077cA078cA079cA080cA081cA082cA083cA084",
      "cA085cA086cA087cA088cA089cA090cA091cA092cA093cA094cA095cA096cA097cA097AcA098cA098AcA099",
      "cA100cA100AcA101cA101AcA102cA102AcA103cA104cA104AcA104BcA104CcA105cA105AcA105BcA106",
      "cA107cA107AcA107BcA107CcA108cA109cA110cA110AcA110BcA111cA112cA113cA114cA115cA115AcA116",
      "cA117cA118cA119cA120cA121cA122cA123cA124cA125cA125AcA126cA127cA128cA129cA130cA131cA132",
      "cA133cA134cA135cA135AcA136cA137cA138cA139cA140cA141cA142cA143cA144cA145cA146cA147cA148",
      "cA149cA150cA151cA152cA153cA154cA155cA156cA157cA158cA159cA160cA161cA162cA163cA164cA165",
      "cA166cA167cA168cA169cA170cA171cA172cA173cA174cA175cA176cA177cA178cA179cA180cA181cA182",
      "cA183cA184cA185cA186cA187cA188cA189cA190cA191cA192cA193cA194cA195cA196cA197cA198cA199",
      "cA200cA201cA202cA202AcA202BcA203cA204cA205cA206cA207cA207AcA208cA209cA209AcA210cA211",
      "cA212cA213cA214cA215cA215AcA216cA216AcA217cA218cA219cA220cA221cA222cA223cA224cA225cA226",
      "cA227cA227AcA228cA229cA230cA231cA232cA233cA234cA235cA236cA237cA238cA239cA240cA241cA242",
      "cA243cA244cA245cA246cA247cA248cA249cA250cA251cA252cA253cA254cA255cA256cA257cA258cA259",
      "cA260cA261cA262cA263cA264cA265cA266cA267cA267AcA268cA269cA270cA271cA272cA273cA274cA275",
      "cA276cA277cA278cA279cA280cA281cA282cA283cA284cA285cA286cA287cA288cA289cA289AcA290cA291",
      "cA292cA293cA294cA294AcA295cA296cA297cA298cA299cA299AcA300cA301cA302cA303cA304cA305cA306",
      "cA307cA308cA309cA309AcA310cA311cA312cA313cA314cA315cA316cA317cA318cA319cA320cA321cA322",
      "cA323cA324cA325cA326cA327cA328cA329cA329AcA330cA331cA332AcA332BcA332CcA333cA334cA335",
      "cA336cA336AcA336BcA336CcA337cA338cA339cA340cA341cA342cA343cA344cA345cA346cA347cA348",
      "cA349cA350cA351cA352cA353cA354cA355cA356cA357cA358cA359cA359AcA360cA361cA362cA363cA364",
      "cA364AcA365cA366cA367cA368cA368AcA369cA370cA371cA371AcA372cA373cA374cA375cA376cA377",
      "cA378cA379cA380cA381cA381AcA382cA383 RA OR RIcA383AcA384cA385cA386cA386AcA387cA388cA389",
      "cA390cA391cA392cA393 EIGHTcA394cA395cA396cA397cA398cA399cA400cA401cA402cA403cA404cA405",
      "cA406cA407cA408cA409cA410 BEGIN LOGOGRAM MARKcA410A END LOGOGRAM MARKcA411cA412cA413",
      "cA414cA415cA416cA417cA418cA419cA420cA421cA422cA423cA424cA425cA426cA427cA428cA429cA430",
      "cA431cA432cA433cA434cA435cA436cA437cA438cA439cA440cA441cA442cA443cA444cA445cA446cA447",
      "cA448cA449cA450cA450AcA451cA452cA453cA454cA455cA456cA457cA457AcA458cA459cA460cA461cA462",
      "cA463cA464cA465cA466cA467cA468cA469cA470cA471cA472cA473cA474cA475cA476cA477cA478cA479",
      "cA480cA481cA482cA483cA484cA485cA486cA487cA488cA489cA490cA491cA492cA493cA494cA495cA496",
      "cA497cA501cA502cA503cA504cA505cA506cA507cA508cA509cA510cA511cA512cA513cA514cA515cA516",
      "cA517cA518cA519cA520cA521cA522cA523cA524cA525cA526cA527cA528cA529cA530"]⟩,
    ⟨0x16800, ["aBAMUM LETTER PHASE-A NGKUE MFONdGBIEE FONdPON MFON PIPAEMGBIEEfPIPAEMBA",
      "dNAA MFONdSHUENSHUETdTITA MFONdNZA MFONdSHINDA PA NJIdPON PA NJI PIPAEMGBIEEgPIPAEMBA",
      "dMAEMBGBIEEdTU MAEMBAdNGANGUdMAEMVEUXdMANSUAEdMVEUAENGAMdSEUNYAMdNTOQPENdKEUKEUTNDA",
      "dNKINDIdSUUdNGKUENZEUMdLAPAQdLET KUTdNTAP MFAAdMAEKEUPdPASHAEdGHEUAERAEdPAMSHAE",
      "dMON NGGEUAETdNZUN MEUTdU YUQ NAEdGHEUAEGHEUAEdNTAP NTAAdSISAdMGBASAdMEUNJOMNDEUQ",
      "dMOOMPUQdKAFAdPA LEERAEWAdNDA LEERAEWAdPETdMAEMKPENdNIKAdPUPdTUAEPdLUAEPdSONJAM",
      "dTEUTEUWENdMAENYIdKETdNDAANGGEUAETdKUOQdMOOMEUTdSHUMdLOMMAEdFIRIdROMdKPOQdSOQdMAP PIEET",
      "dSHIRAEdNTAPdSHOQ NSHUT YUMdNYIT MONGKEUAEQdPAARAEdNKAARAEdUNKNOWNdNGGENdMAESIdNJAM",
      "dMBANYIdNYETdTEUAENdSOTdPAAMdNSHIEEdMAEMdNYIdKAQdNSHAdVEEdLUdNENdNAQdMBAQ",
      "cPHASE-B NSHUETdTU MAEMGBIEEdSIEEdSET TUdLOM NTEUMdMBA MAELEEdKIEEMdYEURAEdMBAARAEdKAM",
      "dPEESHIdYAFU LEERAEWAdLAM NSHUT NYAMdNTIEE SHEUOQdNDU NJAAdGHEUGHEUAEMdPITdTU NSIEE",
      "dSHET NJAQdSHEUAEQTUdMFON TEUAEQdMBIT MBAAKETdNYI NTEUMdKEUPUQdGHEUGHENdKEUYEUXdLAANAE",
      "dPARUMdVEUMdNGKINDI MVOPdNGGEU MBUdWUAETdSAKEUAEdTAAMdMEUQdNGGUOQeLARGEdMFIYAQdSUE",
      "dMBEURIdMONTIEENdNYAEMAEdPUNGAAMdMEUT NGGEETdFEUXdMBUOQdFEEdKEUAEMdMA NJEUAENAeNJUQA",
      "dLETdNGGAAMdNSENdMAdKIQdNGOMcPHASE-C NGKUE MAEMBAdNZAdYUMdWANGKUOQdNGGENdNDEUAEREE",
      "dNGKAQdGHARAEdMBEEKEETdGBAYIdNYIR MKPARAQ MEUNdNTU MBITdMBEUMdPIRIEENdNDOMBU",
      "dMBAA CABBAGE-TREEdKEUSHEUAEPdGHAPdKEUKAQdYU MUOMAEdNZEUMdMBUEdNSEUAENdMBITdYEUQdKPARAQ",
      "dKAAdSEUXdNDIDAdTAASHAEdNJUEQdTITA YUEdSUAETdNGGUAEN NYAMdVEUXdNANSANAQdMA KEUAERIdNTAA",
      "dNGGUONdLAPdMBIRIEENdMGBASAQdNTEUNGBAdTEUTEUXdNGGUMdFUEdNDEUTdNSAdNSHAQdBUNGdVEUAEPEN",
      "dMBERAEdRUdNJAEMdLAMdTITUAEPdNSUOT NGOMdNJEEEEdKETdNGGUdMAESIdMBUAEMdLUdKUTdNJAMdNGOM",
      "dWUPdNGGUEETdNSOMdNTENdKUOP NKAARAEdNSUNdNDAMdMA NSIEEdYAAdNDAPdSHUEQdSETFONdMBIdMAEMBA",
      "dMBANYIdKEUSEUXdMBEUXdKEUMdMBAA PICKETdYUWOQdNJEUXdMIEEdMUAEdSHIQdKEN LAWeFATIGUEdNGAQ",
      "dNAQdLIQdPINdPENdTETcPHASE-D MBUOdWAPdNJIdMFONdNJIEEdLIEEdNJEUTdNSHEEdNGGAAMAEdNYAM",
      "dWUAENdNGKUNdSHEEdNGKAPdKEUAETMEUNdTEUTdSHEUAEdNJAPdSUEdKETdYAEMMAEdKUOMdSAPdMFEUT",
      "dNDEUXdMALEERIdMEUTdSEUAEQdYENdNJEUAEMdKEUOT MBUAEdNGKEURIdTUdGHAAdNGKYEEdFEUFEUAET",
      "dNDEEdMGBOFUMdLEUAEPdNDONdMONIdMGBEUNdPUUTdMGBIEEdMFOdLUMdNSIEEPdMBAAdKWAETdNYETdTEUAEN",
      "dSOTdYUWOQdKEUMdRAEMdTEEEEdNGKEUAEQdMFEUAEdNSIEETdKEUPdPIPdPEUTAEdNYUEdLETdNGGAAMdMFIEE",
      "dNGGWAENdYUOMdPAPdYUOPdNDAMdNTEUMdSUAEdKUNdNGGEUXdNGKIEEdTUOTdMEUNdKUQdNSUMdTEUN",
      "dMAENJETdNGGAPdLEUMdNGGUOMdNSHUTdNJUEQdGHEUAEdKUdREN OLDdTAEdTOQdNYIdRIIdLEEEEdMEEEEdM",
      "dSUUdMUdSHIIdSHEUXdKYEEdNUdSHUdNTEEdPEEdNIdSHOQdPUQdMVOPdLOQdREN MUCHdTIdNTUU",
      "dMBAA SEVENdSAQdFAAcPHASE-E NDAPdTOONdMBEUMdLAPdVOMdLOONdPAAdSOMdRAQdNSHUOPdNDUNdPUAE",
      "dTAMdNGKAdKPEUXdWUOdSEEdNGGEUAETdPAAMdTOOdKUOPdLOMdNSHIEEdNGOPdMAEMdNGKEUXdNGOQdNSHUE",
      "dRIMGBAdNJEUXdPEEMdSAAdNGGURAEdMGBAdGHEUXdNGKEUAEMdNJAEMLIdMAPdLOOTdNGGEEEEdNDIQ",
      "dTAEN NTEUMdSETdPUMdNDAA SOFTNESSdNGGUAESHAE NYAMdYIEEdGHEUNdTUAEdYEUAEdPOdTUMAEdKEUAE",
      "dSUAENdTEUAEQdVEUAEdWEUXdLAAMdPUdTAAQdGHAAMAEdNGEUREUTdSHEUAEQdMGBENdMBEEdNZAQdNKOM",
      "dGBETdTUMdKUETdYAPdNYI CLEAVERdYITdMFEUQdNDIAQdPIEEQdYUEQdLEUAEMdFUEdGBEUXdNGKUPdKET",
      "dMAEdNGKAAMIdGHETdFAdNTUMdPEUTdYEUMdNGGEUAEdNYI BETWEENdNZUQdPOONdMIEEdFUETdNAEdMUAE",
      "dGHEUAEdFU IdMVIdPUAQdNGKUMdKUTdPIETdNTAPdYEUAETdNGGUPdPA PEOPLEdFU CALLdFOMdNJEEdAdTOQ",
      "dOdIdLAQdPA PLURALdTAAdTAQdNDAA MY HOUSEdSHIQdYEUXdNGUAEdYUAENdYOQ SWIMMINGeCOVERdYUQ",
      "dYUNdKEUXdPEUXdNJEE EPOCHdPUEdWUEdFEEdVEEdLUdMIdREUXdRAEdNGUAETdNGAdSHOdSHOQdFU REMEDY",
      "dNAdPIdLOQdKOdMENdMAdMAQdTEUdKIdMONdTENdFAQdGHOMcPHASE-F KAdUdKUdEEdREEdTAEdNYIdLAdRII",
      "dRIEEdMEEEEdTAAdNDAAdNJAEMdMdSUUdSHIIdSIdSEUXdKYEEdKETdNUAEdNUdNJUAEdYOQdSHUdYAdNSHA",
      "dPEUXdNTEEdWUEdPEEdRUdNIdREUXdKENdNGKWAENdNGGAdSHOdPUAEdFOMdWAdLIdLOQdKOdMBENdRENdMAdMO",
      "dMBAAdTETdKPAdSAMBAdVUEQ"]⟩,
    ⟨0x16a40, ["aMRO LETTER TAcNGIcYOcMIMcBAcDAcAcPHIcKHAIcHAOcDAIcCHUcKEAAEcOLcMAEMcNINcPAcOOcO",
      "cROcSHIcTHEAcEAcWAcEcKOcLANcLAcHAIcRIcTEK"]⟩,
    ⟨0x16a60, ["aMRO DIGIT ZEROcONEcTWOcTHREEcFOURcFIVEcSIXcSEVENcEIGHTcNINE"]⟩,
    ⟨0x16a6e, ["aMRO DANDAbDOUBLE DANDAaTANGSA LETTER OZcOCcOQcOXcAZcACcAQcAXcVZcVCcVQcVXcEZcEC",
      "cEQcEXcIZcICcIQcIXcUZcUCcUQcUXcAWZcAWCcAWQcAWXcUIZcUICcUIQcUIXcFINAL NGcLONG UEX",
      "cSHORT UEZdAWXcUECcUEZcUEQcUEXcUIUZcUIUCcUIUQcUIUXcMZcMCcMQcMXcKAcKHAcGAcNGAcSAcYAcWA",
      "cPAcNYAcPHAcBAcMAcNAcHAcLAcHTAcTAcDAcRAcNHAcSHAcCAcTSAcGHAcHTTAcTHAcXAcFAcDHAcCHAcZA"]⟩,
    ⟨0x16ac0, ["aTANGSA DIGIT ZEROcONEcTWOcTHREEcFOURcFIVEcSIXcSEVENcEIGHTcNINE"]⟩,
    ⟨0x16ad0, ["aBASSA VAH LETTER ENNIdKAdSEdFAdMBEdYIEdGAHdDHIIdKPAHdJOdHWAHdWAdZOdGBUdDOdCE",
      "dUWUdTOdBAdVUdYEINdPAdWADDAdAdOdOOdUdEEdEdI"]⟩,
    ⟨0x16af0, ["aBASSA VAH COMBINING HIGH TONEdLOW TONEdMID TONEdLOW-MID TONEdHIGH-LOW TONE",
      "cFULL STOP"]⟩,
    ⟨0x16b00, ["aPAHAWH HMONG VOWEL KEEBdKEEVdKIBdKIVdKAUBdKAUVdKUBdKUVdKEBdKEVdKAIBdKAIVdKOOB",
      "dKOOVdKAWBdKAWVdKUABdKUAVdKOBdKOVdKIABdKIAVdKABdKAVdKWBdKWVdKAABdKAAVcCONSONANT VAU",
      "dNTSAUdLAUdHAUdNLAUdRAUdNKAUdQHAUdYAUdHLAUdMAUdCHAUdNCHAUdHNAUdPLHAUdNTHAUdNAUdAUdXAU",
      "dCAUcMARK CIM TUBeSOeKESeKHAVeSUAMeHOMeTAUMcSIGN VOS THOMeTSHAB CEEBdCIM CHEEM",
      "dVOS THIABeFEEMdXYEEM NTXIVeRHOeTOVeFAIBdVOS SEEVdMEEJ SUABdVOS NRUAdIB YAMdXAUS",
      "dCIM TSOV ROG"]⟩,
    ⟨0x16b50, ["aPAHAWH HMONG DIGIT ZEROdONEdTWOdTHREEdFOURdFIVEdSIXdSEVENdEIGHTdNINE"]⟩,
    ⟨0x16b5b, ["aPAHAWH HMONG NUMBER TENSdHUNDREDSdTEN THOUSANDSdMILLIONSdHUNDRED MILLIONS",
      "dTEN BILLIONSdTRILLIONS"]⟩,
    ⟨0x16b63, ["aPAHAWH HMONG SIGN VOS LUBdXYOOdHLIdTHIRD-STAGE HLIdZWJ THAJdHNUBdNQIGdXIABdNTUJ",
      "dAVdTXHEEJ CEEVdMEEJ TSEEBdTAUdLOSdMUSdCIM HAIS LUS NTOG NTOGeCUAM TSHOOJeTXWVfCHWV",
      "ePUB DAWBeNRES TOS"]⟩,
    ⟨0x16b7d, ["aPAHAWH HMONG CLAN SIGN TSHEEJeYEEGeLISeLAUJeXYOOJeKOOeHAWJeMUASeTHOJeTSABePHAB",
      "eKHABeHAMeVAJeFAJeYAJeTSWBeKWMeVWJ"]⟩,
    ⟨0x16e40, ["aMEDEFAIDRIN CAPITAL LETTER MdSdVdWdATIUdZdKPdPdTdGdFdIdKdAdJdEdBdCdUdYUdLdQdHP",
      "dNYdXdDdOEdNdRdOdAIdYbSMALL LETTER MdSdVdWdATIUdZdKPdPdTdGdFdIdKdAdJdEdBdCdUdYUdLdQdHP",
      "dNYdXdDdOEdNdRdOdAIdYbDIGIT ZEROcONEcTWOcTHREEcFOURcFIVEcSIXcSEVENcEIGHTcNINE",
      "bNUMBER TENcELEVENcTWELVEcTHIRTEENcFOURTEENcFIFTEENcSIXTEENcSEVENTEENcEIGHTEENcNINETEEN",
      "bDIGIT ONE ALTERNATE FORMcTWO ALTERNATE FORMcTHREE ALTERNATE FORMbCOMMAbFULL STOP",
      "bSYMBOL AIVAbEXCLAMATION OH"]⟩,
    ⟨0x16f00, ["aMIAO LETTER PAcBAcYI PAcPLAcMAcMHAcARCHAIC MAcFAcVAcVFAcTAcDAcYI TTAdTAcTTAcDDA",
      "cNAcNHAcYI NNAcARCHAIC NAcNNAcNNHAcLAcLYAcLHAcLHYAcTLHAcDLHAcTLHYAcDLHYAcKAcGAcYI KAcQA",
      "cQGAcNGAcNGHAcARCHAIC NGAcHAcXAcGHAcGHHAcTSSAcDZZAcNYAcNYHAcTSHAcDZHAcYI TSHAdDZHA",
      "cREFORMED TSHAcSHAcSSAcZHAcZSHAcTSAcDZAcYI TSAcSAcZAcZSAcZZAcZZSAcARCHAIC ZZAcZZYA",
      "cZZSYAcWAcAHcHHAcBRIcSYIcDZYIcTEcTSEcRTE"]⟩]

def namesFrom16F4F : List NameRun :=
  [⟨0x16f4f, ["aMIAO SIGN CONSONANT MODIFIER BARbLETTER NASALIZATIONbSIGN ASPIRATION",
      "cREFORMED VOICINGdASPIRATIONbVOWEL SIGN AdAAdAHHdANdANGdOdOOdWOdWdEdENdENGdOEYdIdIAdIAN",
      "dIANGdIOdIEdIIdIUdINGdUdUAdUANdUANGdUUdUEIdUNGdYdYIdAEdAEEdERRdROUNDED ERRdER",
      "dROUNDED ERdAIdEIdAUdOUdNdNGdUOGdYUIdOGdOERdVWdIGdEAdIONGdUI"]⟩,
    ⟨0x16f8f, ["aMIAO TONE RIGHTcTOP RIGHTcABOVEcBELOWbLETTER TONE-2cTONE-3cTONE-4cTONE-5cTONE-6",
      "cTONE-7cTONE-8cREFORMED TONE-1dTONE-2dTONE-4dTONE-5dTONE-6dTONE-8"]⟩,
    ⟨0x16fe0, ["aTANGUT ITERATION MARKaNUSHU ITERATION MARKaOLD CHINESE HOOK MARKcITERATION MARK",
      "aKHITAN SMALL SCRIPT FILLER"]⟩,
    ⟨0x16ff0, ["aVIETNAMESE ALTERNATE READING MARK CAeNHAY"]⟩]

def namesFrom18800 : List NameRun :=
  [⟨0x18800, ["aTANGUT COMPONENT-001bCOMPONENT-002bCOMPONENT-003bCOMPONENT-004bCOMPONENT-005",
      "bCOMPONENT-006bCOMPONENT-007bCOMPONENT-008bCOMPONENT-009bCOMPONENT-010bCOMPONENT-011",
      "bCOMPONENT-012bCOMPONENT-013bCOMPONENT-014bCOMPONENT-015bCOMPONENT-016bCOMPONENT-017",
      "bCOMPONENT-018bCOMPONENT-019bCOMPONENT-020bCOMPONENT-021bCOMPONENT-022bCOMPONENT-023",
      "bCOMPONENT-024bCOMPONENT-025bCOMPONENT-026bCOMPONENT-027bCOMPONENT-028bCOMPONENT-029",
      "bCOMPONENT-030bCOMPONENT-031bCOMPONENT-032bCOMPONENT-033bCOMPONENT-034bCOMPONENT-035",
      "bCOMPONENT-036bCOMPONENT-037bCOMPONENT-038bCOMPONENT-039bCOMPONENT-040bCOMPONENT-041",
      "bCOMPONENT-042bCOMPONENT-043bCOMPONENT-044bCOMPONENT-045bCOMPONENT-046bCOMPONENT-047",
      "bCOMPONENT-048bCOMPONENT-049bCOMPONENT-050bCOMPONENT-051bCOMPONENT-052bCOMPONENT-053",
      "bCOMPONENT-054bCOMPONENT-055bCOMPONENT-056bCOMPONENT-057bCOMPONENT-058bCOMPONENT-059",
      "bCOMPONENT-060bCOMPONENT-061bCOMPONENT-062bCOMPONENT-063bCOMPONENT-064bCOMPONENT-065",
      "bCOMPONENT-066bCOMPONENT-067bCOMPONENT-068bCOMPONENT-069bCOMPONENT-070bCOMPONENT-071",
      "bCOMPONENT-072bCOMPONENT-073bCOMPONENT-074bCOMPONENT-075bCOMPONENT-076bCOMPONENT-077",
      "bCOMPONENT-078bCOMPONENT-079bCOMPONENT-080bCOMPONENT-081bCOMPONENT-082bCOMPONENT-083",
      "bCOMPONENT-084bCOMPONENT-085bCOMPONENT-086bCOMPONENT-087bCOMPONENT-088bCOMPONENT-089",
      "bCOMPONENT-090bCOMPONENT-091bCOMPONENT-092bCOMPONENT-093bCOMPONENT-094bCOMPONENT-095",
      "bCOMPONENT-096bCOMPONENT-097bCOMPONENT-098bCOMPONENT-099bCOMPONENT-100bCOMPONENT-101",
      "bCOMPONENT-102bCOMPONENT-103bCOMPONENT-104bCOMPONENT-105bCOMPONENT-106bCOMPONENT-107",
      "bCOMPONENT-108bCOMPONENT-109bCOMPONENT-110bCOMPONENT-111bCOMPONENT-112bCOMPONENT-113",
      "bCOMPONENT-114bCOMPONENT-115bCOMPONENT-116bCOMPONENT-117bCOMPONENT-118bCOMPONENT-119",
      "bCOMPONENT-120bCOMPONENT-121bCOMPONENT-122bCOMPONENT-123bCOMPONENT-124bCOMPONENT-125",
      "bCOMPONENT-126bCOMPONENT-127bCOMPONENT-128bCOMPONENT-129bCOMPONENT-130bCOMPONENT-131",
      "bCOMPONENT-132bCOMPONENT-133bCOMPONENT-134bCOMPONENT-135bCOMPONENT-136bCOMPONENT-137",
      "bCOMPONENT-138bCOMPONENT-139bCOMPONENT-140bCOMPONENT-141bCOMPONENT-142bCOMPONENT-143",
      "bCOMPONENT-144bCOMPONENT-145bCOMPONENT-146bCOMPONENT-147bCOMPONENT-148bCOMPONENT-149",
      "bCOMPONENT-150bCOMPONENT-151bCOMPONENT-152bCOMPONENT-153bCOMPONENT-154bCOMPONENT-155",
      "bCOMPONENT-156bCOMPONENT-157bCOMPONENT-158bCOMPONENT-159bCOMPONENT-160bCOMPONENT-161",
      "bCOMPONENT-162bCOMPONENT-163bCOMPONENT-164bCOMPONENT-165bCOMPONENT-166bCOMPONENT-167",
      "bCOMPONENT-168bCOMPONENT-169bCOMPONENT-170bCOMPONENT-171bCOMPONENT-172bCOMPONENT-173",
      "bCOMPONENT-174bCOMPONENT-175bCOMPONENT-176bCOMPONENT-177bCOMPONENT-178bCOMPONENT-179",
      "bCOMPONENT-180bCOMPONENT-181bCOMPONENT-182bCOMPONENT-183bCOMPONENT-184bCOMPONENT-185",
      "bCOMPONENT-186bCOMPONENT-187bCOMPONENT-188bCOMPONENT-189bCOMPONENT-190bCOMPONENT-191",
      "bCOMPONENT-192bCOMPONENT-193bCOMPONENT-194bCOMPONENT-195bCOMPONENT-196bCOMPONENT-197",
      "bCOMPONENT-198bCOMPONENT-199bCOMPONENT-200bCOMPONENT-201bCOMPONENT-202bCOMPONENT-203",
      "bCOMPONENT-204bCOMPONENT-205bCOMPONENT-206bCOMPONENT-207bCOMPONENT-208bCOMPONENT-209",
      "bCOMPONENT-210bCOMPONENT-211bCOMPONENT-212bCOMPONENT-213bCOMPONENT-214bCOMPONENT-215",
      "bCOMPONENT-216bCOMPONENT-217bCOMPONENT-218bCOMPONENT-219bCOMPONENT-220bCOMPONENT-221",
      "bCOMPONENT-222bCOMPONENT-223bCOMPONENT-224bCOMPONENT-225bCOMPONENT-226bCOMPONENT-227",
      "bCOMPONENT-228bCOMPONENT-229bCOMPONENT-230bCOMPONENT-231bCOMPONENT-232bCOMPONENT-233",
      "bCOMPONENT-234bCOMPONENT-235bCOMPONENT-236bCOMPONENT-237bCOMPONENT-238bCOMPONENT-239",
      "bCOMPONENT-240bCOMPONENT-241bCOMPONENT-242bCOMPONENT-243bCOMPONENT-244bCOMPONENT-245",
      "bCOMPONENT-246bCOMPONENT-247bCOMPONENT-248bCOMPONENT-249bCOMPONENT-250bCOMPONENT-251",
      "bCOMPONENT-252bCOMPONENT-253bCOMPONENT-254bCOMPONENT-255bCOMPONENT-256bCOMPONENT-257",
      "bCOMPONENT-258bCOMPONENT-259bCOMPONENT-260bCOMPONENT-261bCOMPONENT-262bCOMPONENT-263",
      "bCOMPONENT-264bCOMPONENT-265bCOMPONENT-266bCOMPONENT-267bCOMPONENT-268bCOMPONENT-269",
      "bCOMPONENT-270bCOMPONENT-271bCOMPONENT-272bCOMPONENT-273bCOMPONENT-274bCOMPONENT-275",
      "bCOMPONENT-276bCOMPONENT-277bCOMPONENT-278bCOMPONENT-279bCOMPONENT-280bCOMPONENT-281",
      "bCOMPONENT-282bCOMPONENT-283bCOMPONENT-284bCOMPONENT-285bCOMPONENT-286bCOMPONENT-287",
      "bCOMPONENT-288bCOMPONENT-289bCOMPONENT-290bCOMPONENT-291bCOMPONENT-292bCOMPONENT-293",
      "bCOMPONENT-294bCOMPONENT-295bCOMPONENT-296bCOMPONENT-297bCOMPONENT-298bCOMPONENT-299",
      "bCOMPONENT-300bCOMPONENT-301bCOMPONENT-302bCOMPONENT-303bCOMPONENT-304bCOMPONENT-305",
      "bCOMPONENT-306bCOMPONENT-307bCOMPONENT-308bCOMPONENT-309bCOMPONENT-310bCOMPONENT-311",
      "bCOMPONENT-312bCOMPONENT-313bCOMPONENT-314bCOMPONENT-315bCOMPONENT-316bCOMPONENT-317",
      "bCOMPONENT-318bCOMPONENT-319bCOMPONENT-320bCOMPONENT-321bCOMPONENT-322bCOMPONENT-323",
      "bCOMPONENT-324bCOMPONENT-325bCOMPONENT-326bCOMPONENT-327bCOMPONENT-328bCOMPONENT-329",
      "bCOMPONENT-330bCOMPONENT-331bCOMPONENT-332bCOMPONENT-333bCOMPONENT-334bCOMPONENT-335",
      "bCOMPONENT-336bCOMPONENT-337bCOMPONENT-338bCOMPONENT-339bCOMPONENT-340bCOMPONENT-341",
      "bCOMPONENT-342bCOMPONENT-343bCOMPONENT-344bCOMPONENT-345bCOMPONENT-346bCOMPONENT-347",
      "bCOMPONENT-348bCOMPONENT-349bCOMPONENT-350bCOMPONENT-351bCOMPONENT-352bCOMPONENT-353",
      "bCOMPONENT-354bCOMPONENT-355bCOMPONENT-356bCOMPONENT-357bCOMPONENT-358bCOMPONENT-359",
      "bCOMPONENT-360bCOMPONENT-361bCOMPONENT-362bCOMPONENT-363bCOMPONENT-364bCOMPONENT-365",
      "bCOMPONENT-366bCOMPONENT-367bCOMPONENT-368bCOMPONENT-369bCOMPONENT-370bCOMPONENT-371",
      "bCOMPONENT-372bCOMPONENT-373bCOMPONENT-374bCOMPONENT-375bCOMPONENT-376bCOMPONENT-377",
      "bCOMPONENT-378bCOMPONENT-379bCOMPONENT-380bCOMPONENT-381bCOMPONENT-382bCOMPONENT-383",
      "bCOMPONENT-384bCOMPONENT-385bCOMPONENT-386bCOMPONENT-387bCOMPONENT-388bCOMPONENT-389",
      "bCOMPONENT-390bCOMPONENT-391bCOMPONENT-392bCOMPONENT-393bCOMPONENT-394bCOMPONENT-395",
      "bCOMPONENT-396bCOMPONENT-397bCOMPONENT-398bCOMPONENT-399bCOMPONENT-400bCOMPONENT-401",
      "bCOMPONENT-402bCOMPONENT-403bCOMPONENT-404bCOMPONENT-405bCOMPONENT-406bCOMPONENT-407",
      "bCOMPONENT-408bCOMPONENT-409bCOMPONENT-410bCOMPONENT-411bCOMPONENT-412bCOMPONENT-413",
      "bCOMPONENT-414bCOMPONENT-415bCOMPONENT-416bCOMPONENT-417bCOMPONENT-418bCOMPONENT-419",
      "bCOMPONENT-420bCOMPONENT-421bCOMPONENT-422bCOMPONENT-423bCOMPONENT-424bCOMPONENT-425",
      "bCOMPONENT-426bCOMPONENT-427bCOMPONENT-428bCOMPONENT-429bCOMPONENT-430bCOMPONENT-431",
      "bCOMPONENT-432bCOMPONENT-433bCOMPONENT-434bCOMPONENT-435bCOMPONENT-436bCOMPONENT-437",
      "bCOMPONENT-438bCOMPONENT-439bCOMPONENT-440bCOMPONENT-441bCOMPONENT-442bCOMPONENT-443",
      "bCOMPONENT-444bCOMPONENT-445bCOMPONENT-446bCOMPONENT-447bCOMPONENT-448bCOMPONENT-449",
      "bCOMPONENT-450bCOMPONENT-451bCOMPONENT-452bCOMPONENT-453bCOMPONENT-454bCOMPONENT-455",
      "bCOMPONENT-456bCOMPONENT-457bCOMPONENT-458bCOMPONENT-459bCOMPONENT-460bCOMPONENT-461",
      "bCOMPONENT-462bCOMPONENT-463bCOMPONENT-464bCOMPONENT-465bCOMPONENT-466bCOMPONENT-467",
      "bCOMPONENT-468bCOMPONENT-469bCOMPONENT-470bCOMPONENT-471bCOMPONENT-472bCOMPONENT-473",
      "bCOMPONENT-474bCOMPONENT-475bCOMPONENT-476bCOMPONENT-477bCOMPONENT-478bCOMPONENT-479",
      "bCOMPONENT-480bCOMPONENT-481bCOMPONENT-482bCOMPONENT-483bCOMPONENT-484bCOMPONENT-485",
      "bCOMPONENT-486bCOMPONENT-487bCOMPONENT-488bCOMPONENT-489bCOMPONENT-490bCOMPONENT-491",
      "bCOMPONENT-492bCOMPONENT-493bCOMPONENT-494bCOMPONENT-495bCOMPONENT-496bCOMPONENT-497",
      "bCOMPONENT-498bCOMPONENT-499bCOMPONENT-500bCOMPONENT-501bCOMPONENT-502bCOMPONENT-503",
      "bCOMPONENT-504bCOMPONENT-505bCOMPONENT-506bCOMPONENT-507bCOMPONENT-508bCOMPONENT-509",
      "bCOMPONENT-510bCOMPONENT-511bCOMPONENT-512bCOMPONENT-513bCOMPONENT-514bCOMPONENT-515",
      "bCOMPONENT-516bCOMPONENT-517bCOMPONENT-518bCOMPONENT-519bCOMPONENT-520bCOMPONENT-521",
      "bCOMPONENT-522bCOMPONENT-523bCOMPONENT-524bCOMPONENT-525bCOMPONENT-526bCOMPONENT-527",
      "bCOMPONENT-528bCOMPONENT-529bCOMPONENT-530bCOMPONENT-531bCOMPONENT-532bCOMPONENT-533",
      "bCOMPONENT-534bCOMPONENT-535bCOMPONENT-536bCOMPONENT-537bCOMPONENT-538bCOMPONENT-539",
      "bCOMPONENT-540bCOMPONENT-541bCOMPONENT-542bCOMPONENT-543bCOMPONENT-544bCOMPONENT-545",
      "bCOMPONENT-546bCOMPONENT-547bCOMPONENT-548bCOMPONENT-549bCOMPONENT-550bCOMPONENT-551",
      "bCOMPONENT-552bCOMPONENT-553bCOMPONENT-554bCOMPONENT-555bCOMPONENT-556bCOMPONENT-557",
      "bCOMPONENT-558bCOMPONENT-559bCOMPONENT-560bCOMPONENT-561bCOMPONENT-562bCOMPONENT-563",
      "bCOMPONENT-564bCOMPONENT-565bCOMPONENT-566bCOMPONENT-567bCOMPONENT-568bCOMPONENT-569",
      "bCOMPONENT-570bCOMPONENT-571bCOMPONENT-572bCOMPONENT-573bCOMPONENT-574bCOMPONENT-575",
      "bCOMPONENT-576bCOMPONENT-577bCOMPONENT-578bCOMPONENT-579bCOMPONENT-580bCOMPONENT-581",
      "bCOMPONENT-582bCOMPONENT-583bCOMPONENT-584bCOMPONENT-585bCOMPONENT-586bCOMPONENT-587",
      "bCOMPONENT-588bCOMPONENT-589bCOMPONENT-590bCOMPONENT-591bCOMPONENT-592bCOMPONENT-593",
      "bCOMPONENT-594bCOMPONENT-595bCOMPONENT-596bCOMPONENT-597bCOMPONENT-598bCOMPONENT-599",
      "bCOMPONENT-600bCOMPONENT-601bCOMPONENT-602bCOMPONENT-603bCOMPONENT-604bCOMPONENT-605",
      "bCOMPONENT-606bCOMPONENT-607bCOMPONENT-608bCOMPONENT-609bCOMPONENT-610bCOMPONENT-611",
      "bCOMPONENT-612bCOMPONENT-613bCOMPONENT-614bCOMPONENT-615bCOMPONENT-616bCOMPONENT-617",
      "bCOMPONENT-618bCOMPONENT-619bCOMPONENT-620bCOMPONENT-621bCOMPONENT-622bCOMPONENT-623",
      "bCOMPONENT-624bCOMPONENT-625bCOMPONENT-626bCOMPONENT-627bCOMPONENT-628bCOMPONENT-629",
      "bCOMPONENT-630bCOMPONENT-631bCOMPONENT-632bCOMPONENT-633bCOMPONENT-634bCOMPONENT-635",
      "bCOMPONENT-636bCOMPONENT-637bCOMPONENT-638bCOMPONENT-639bCOMPONENT-640bCOMPONENT-641",
      "bCOMPONENT-642bCOMPONENT-643bCOMPONENT-644bCOMPONENT-645bCOMPONENT-646bCOMPONENT-647",
      "bCOMPONENT-648bCOMPONENT-649bCOMPONENT-650bCOMPONENT-651bCOMPONENT-652bCOMPONENT-653",
      "bCOMPONENT-654bCOMPONENT-655bCOMPONENT-656bCOMPONENT-657bCOMPONENT-658bCOMPONENT-659",
      "bCOMPONENT-660bCOMPONENT-661bCOMPONENT-662bCOMPONENT-663bCOMPONENT-664bCOMPONENT-665",
      "bCOMPONENT-666bCOMPONENT-667bCOMPONENT-668bCOMPONENT-669bCOMPONENT-670bCOMPONENT-671",
      "bCOMPONENT-672bCOMPONENT-673bCOMPONENT-674bCOMPONENT-675bCOMPONENT-676bCOMPONENT-677",
      "bCOMPONENT-678bCOMPONENT-679bCOMPONENT-680bCOMPONENT-681bCOMPONENT-682bCOMPONENT-683",
      "bCOMPONENT-684bCOMPONENT-685bCOMPONENT-686bCOMPONENT-687bCOMPONENT-688bCOMPONENT-689",
      "bCOMPONENT-690bCOMPONENT-691bCOMPONENT-692bCOMPONENT-693bCOMPONENT-694bCOMPONENT-695",
      "bCOMPONENT-696bCOMPONENT-697bCOMPONENT-698bCOMPONENT-699bCOMPONENT-700bCOMPONENT-701",
      "bCOMPONENT-702bCOMPONENT-703bCOMPONENT-704bCOMPONENT-705bCOMPONENT-706bCOMPONENT-707",
      "bCOMPONENT-708bCOMPONENT-709bCOMPONENT-710bCOMPONENT-711bCOMPONENT-712bCOMPONENT-713",
      "bCOMPONENT-714bCOMPONENT-715bCOMPONENT-716bCOMPONENT-717bCOMPONENT-718bCOMPONENT-719",
      "bCOMPONENT-720bCOMPONENT-721bCOMPONENT-722bCOMPONENT-723bCOMPONENT-724bCOMPONENT-725",
      "bCOMPONENT-726bCOMPONENT-727bCOMPONENT-728bCOMPONENT-729bCOMPONENT-730bCOMPONENT-731",
      "bCOMPONENT-732bCOMPONENT-733bCOMPONENT-734bCOMPONENT-735bCOMPONENT-736bCOMPONENT-737",
      "bCOMPONENT-738bCOMPONENT-739bCOMPONENT-740bCOMPONENT-741bCOMPONENT-742bCOMPONENT-743",
      "bCOMPONENT-744bCOMPONENT-745bCOMPONENT-746bCOMPONENT-747bCOMPONENT-748bCOMPONENT-749",
      "bCOMPONENT-750bCOMPONENT-751bCOMPONENT-752bCOMPONENT-753bCOMPONENT-754bCOMPONENT-755",
      "bCOMPONENT-756bCOMPONENT-757bCOMPONENT-758bCOMPONENT-759bCOMPONENT-760bCOMPONENT-761",
      "bCOMPONENT-762bCOMPONENT-763bCOMPONENT-764bCOMPONENT-765bCOMPONENT-766bCOMPONENT-767",
      "bCOMPONENT-768aKHITAN SMALL SCRIPT CHARACTER-18B00dCHARACTER-18B01dCHARACTER-18B02",
      "dCHARACTER-18B03dCHARACTER-18B04dCHARACTER-18B05dCHARACTER-18B06dCHARACTER-18B07",
      "dCHARACTER-18B08dCHARACTER-18B09dCHARACTER-18B0AdCHARACTER-18B0BdCHARACTER-18B0C",
      "dCHARACTER-18B0DdCHARACTER-18B0EdCHARACTER-18B0FdCHARACTER-18B10dCHARACTER-18B11",
      "dCHARACTER-18B12dCHARACTER-18B13dCHARACTER-18B14dCHARACTER-18B15dCHARACTER-18B16",
      "dCHARACTER-18B17dCHARACTER-18B18dCHARACTER-18B19dCHARACTER-18B1AdCHARACTER-18B1B",
      "dCHARACTER-18B1CdCHARACTER-18B1DdCHARACTER-18B1EdCHARACTER-18B1FdCHARACTER-18B20",
      "dCHARACTER-18B21dCHARACTER-18B22dCHARACTER-18B23dCHARACTER-18B24dCHARACTER-18B25",
      "dCHARACTER-18B26dCHARACTER-18B27dCHARACTER-18B28dCHARACTER-18B29dCHARACTER-18B2A",
      "dCHARACTER-18B2BdCHARACTER-18B2CdCHARACTER-18B2DdCHARACTER-18B2EdCHARACTER-18B2F",
      "dCHARACTER-18B30dCHARACTER-18B31dCHARACTER-18B32dCHARACTER-18B33dCHARACTER-18B34",
      "dCHARACTER-18B35dCHARACTER-18B36dCHARACTER-18B37dCHARACTER-18B38dCHARACTER-18B39",
      "dCHARACTER-18B3AdCHARACTER-18B3BdCHARACTER-18B3CdCHARACTER-18B3DdCHARACTER-18B3E",
      "dCHARACTER-18B3FdCHARACTER-18B40dCHARACTER-18B41dCHARACTER-18B42dCHARACTER-18B43",
      "dCHARACTER-18B44dCHARACTER-18B45dCHARACTER-18B46dCHARACTER-18B47dCHARACTER-18B48",
      "dCHARACTER-18B49dCHARACTER-18B4AdCHARACTER-18B4BdCHARACTER-18B4CdCHARACTER-18B4D",
      "dCHARACTER-18B4EdCHARACTER-18B4FdCHARACTER-18B50dCHARACTER-18B51dCHARACTER-18B52",
      "dCHARACTER-18B53dCHARACTER-18B54dCHARACTER-18B55dCHARACTER-18B56dCHARACTER-18B57",
      "dCHARACTER-18B58dCHARACTER-18B59dCHARACTER-18B5AdCHARACTER-18B5BdCHARACTER-18B5C",
      "dCHARACTER-18B5DdCHARACTER-18B5EdCHARACTER-18B5FdCHARACTER-18B60dCHARACTER-18B61",
      "dCHARACTER-18B62dCHARACTER-18B63dCHARACTER-18B64dCHARACTER-18B65dCHARACTER-18B66",
      "dCHARACTER-18B67dCHARACTER-18B68dCHARACTER-18B69dCHARACTER-18B6AdCHARACTER-18B6B",
      "dCHARACTER-18B6CdCHARACTER-18B6DdCHARACTER-18B6EdCHARACTER-18B6FdCHARACTER-18B70",
      "dCHARACTER-18B71dCHARACTER-18B72dCHARACTER-18B73dCHARACTER-18B74dCHARACTER-18B75",
      "dCHARACTER-18B76dCHARACTER-18B77dCHARACTER-18B78dCHARACTER-18B79dCHARACTER-18B7A",
      "dCHARACTER-18B7BdCHARACTER-18B7CdCHARACTER-18B7DdCHARACTER-18B7EdCHARACTER-18B7F",
      "dCHARACTER-18B80dCHARACTER-18B81dCHARACTER-18B82dCHARACTER-18B83dCHARACTER-18B84",
      "dCHARACTER-18B85dCHARACTER-18B86dCHARACTER-18B87dCHARACTER-18B88dCHARACTER-18B89",
      "dCHARACTER-18B8AdCHARACTER-18B8BdCHARACTER-18B8CdCHARACTER-18B8DdCHARACTER-18B8E",
      "dCHARACTER-18B8FdCHARACTER-18B90dCHARACTER-18B91dCHARACTER-18B92dCHARACTER-18B93",
      "dCHARACTER-18B94dCHARACTER-18B95dCHARACTER-18B96dCHARACTER-18B97dCHARACTER-18B98",
      "dCHARACTER-18B99dCHARACTER-18B9AdCHARACTER-18B9BdCHARACTER-18B9CdCHARACTER-18B9D",
      "dCHARACTER-18B9EdCHARACTER-18B9FdCHARACTER-18BA0dCHARACTER-18BA1dCHARACTER-18BA2",
      "dCHARACTER-18BA3dCHARACTER-18BA4dCHARACTER-18BA5dCHARACTER-18BA6dCHARACTER-18BA7",
      "dCHARACTER-18BA8dCHARACTER-18BA9dCHARACTER-18BAAdCHARACTER-18BABdCHARACTER-18BAC",
      "dCHARACTER-18BADdCHARACTER-18BAEdCHARACTER-18BAFdCHARACTER-18BB0dCHARACTER-18BB1",
      "dCHARACTER-18BB2dCHARACTER-18BB3dCHARACTER-18BB4dCHARACTER-18BB5dCHARACTER-18BB6",
      "dCHARACTER-18BB7dCHARACTER-18BB8dCHARACTER-18BB9dCHARACTER-18BBAdCHARACTER-18BBB",
      "dCHARACTER-18BBCdCHARACTER-18BBDdCHARACTER-18BBEdCHARACTER-18BBFdCHARACTER-18BC0",
      "dCHARACTER-18BC1dCHARACTER-18BC2dCHARACTER-18BC3dCHARACTER-18BC4dCHARACTER-18BC5",
      "dCHARACTER-18BC6dCHARACTER-18BC7dCHARACTER-18BC8dCHARACTER-18BC9dCHARACTER-18BCA",
      "dCHARACTER-18BCBdCHARACTER-18BCCdCHARACTER-18BCDdCHARACTER-18BCEdCHARACTER-18BCF",
      "dCHARACTER-18BD0dCHARACTER-18BD1dCHARACTER-18BD2dCHARACTER-18BD3dCHARACTER-18BD4",
      "dCHARACTER-18BD5dCHARACTER-18BD6dCHARACTER-18BD7dCHARACTER-18BD8dCHARACTER-18BD9",
      "dCHARACTER-18BDAdCHARACTER-18BDBdCHARACTER-18BDCdCHARACTER-18BDDdCHARACTER-18BDE",
      "dCHARACTER-18BDFdCHARACTER-18BE0dCHARACTER-18BE1dCHARACTER-18BE2dCHARACTER-18BE3",
      "dCHARACTER-18BE4dCHARACTER-18BE5dCHARACTER-18BE6dCHARACTER-18BE7dCHARACTER-18BE8",
      "dCHARACTER-18BE9dCHARACTER-18BEAdCHARACTER-18BEBdCHARACTER-18BECdCHARACTER-18BED",
      "dCHARACTER-18BEEdCHARACTER-18BEFdCHARACTER-18BF0dCHARACTER-18BF1dCHARACTER-18BF2",
      "dCHARACTER-18BF3dCHARACTER-18BF4dCHARACTER-18BF5dCHARACTER-18BF6dCHARACTER-18BF7",
      "dCHARACTER-18BF8dCHARACTER-18BF9dCHARACTER-18BFAdCHARACTER-18BFBdCHARACTER-18BFC",
      "dCHARACTER-18BFDdCHARACTER-18BFEdCHARACTER-18BFFdCHARACTER-18C00dCHARACTER-18C01",
      "dCHARACTER-18C02dCHARACTER-18C03dCHARACTER-18C04dCHARACTER-18C05dCHARACTER-18C06",
      "dCHARACTER-18C07dCHARACTER-18C08dCHARACTER-18C09dCHARACTER-18C0AdCHARACTER-18C0B",
      "dCHARACTER-18C0CdCHARACTER-18C0DdCHARACTER-18C0EdCHARACTER-18C0FdCHARACTER-18C10",
      "dCHARACTER-18C11dCHARACTER-18C12dCHARACTER-18C13dCHARACTER-18C14dCHARACTER-18C15",
      "dCHARACTER-18C16dCHARACTER-18C17dCHARACTER-18C18dCHARACTER-18C19dCHARACTER-18C1A",
      "dCHARACTER-18C1BdCHARACTER-18C1CdCHARACTER-18C1DdCHARACTER-18C1EdCHARACTER-18C1F",
      "dCHARACTER-18C20dCHARACTER-18C21dCHARACTER-18C22dCHARACTER-18C23dCHARACTER-18C24",
      "dCHARACTER-18C25dCHARACTER-18C26dCHARACTER-18C27dCHARACTER-18C28dCHARACTER-18C29",
      "dCHARACTER-18C2AdCHARACTER-18C2BdCHARACTER-18C2CdCHARACTER-18C2DdCHARACTER-18C2E",
      "dCHARACTER-18C2FdCHARACTER-18C30dCHARACTER-18C31dCHARACTER-18C32dCHARACTER-18C33",
      "dCHARACTER-18C34dCHARACTER-18C35dCHARACTER-18C36dCHARACTER-18C37dCHARACTER-18C38",
      "dCHARACTER-18C39dCHARACTER-18C3AdCHARACTER-18C3BdCHARACTER-18C3CdCHARACTER-18C3D",
      "dCHARACTER-18C3EdCHARACTER-18C3FdCHARACTER-18C40dCHARACTER-18C41dCHARACTER-18C42",
      "dCHARACTER-18C43dCHARACTER-18C44dCHARACTER-18C45dCHARACTER-18C46dCHARACTER-18C47",
      "dCHARACTER-18C48dCHARACTER-18C49dCHARACTER-18C4AdCHARACTER-18C4BdCHARACTER-18C4C",
      "dCHARACTER-18C4DdCHARACTER-18C4EdCHARACTER-18C4FdCHARACTER-18C50dCHARACTER-18C51",
      "dCHARACTER-18C52dCHARACTER-18C53dCHARACTER-18C54dCHARACTER-18C55dCHARACTER-18C56",
      "dCHARACTER-18C57dCHARACTER-18C58dCHARACTER-18C59dCHARACTER-18C5AdCHARACTER-18C5B",
      "dCHARACTER-18C5CdCHARACTER-18C5DdCHARACTER-18C5EdCHARACTER-18C5FdCHARACTER-18C60",
      "dCHARACTER-18C61dCHARACTER-18C62dCHARACTER-18C63dCHARACTER-18C64dCHARACTER-18C65",
      "dCHARACTER-18C66dCHARACTER-18C67dCHARACTER-18C68dCHARACTER-18C69dCHARACTER-18C6A",
      "dCHARACTER-18C6BdCHARACTER-18C6CdCHARACTER-18C6DdCHARACTER-18C6EdCHARACTER-18C6F",
      "dCHARACTER-18C70dCHARACTER-18C71dCHARACTER-18C72dCHARACTER-18C73dCHARACTER-18C74",
      "dCHARACTER-18C75dCHARACTER-18C76dCHARACTER-18C77dCHARACTER-18C78dCHARACTER-18C79",
      "dCHARACTER-18C7AdCHARACTER-18C7BdCHARACTER-18C7CdCHARACTER-18C7DdCHARACTER-18C7E",
      "dCHARACTER-18C7FdCHARACTER-18C80dCHARACTER-18C81dCHARACTER-18C82dCHARACTER-18C83",
      "dCHARACTER-18C84dCHARACTER-18C85dCHARACTER-18C86dCHARACTER-18C87dCHARACTER-18C88",
      "dCHARACTER-18C89dCHARACTER-18C8AdCHARACTER-18C8BdCHARACTER-18C8CdCHARACTER-18C8D",
      "dCHARACTER-18C8EdCHARACTER-18C8FdCHARACTER-18C90dCHARACTER-18C91dCHARACTER-18C92",
      "dCHARACTER-18C93dCHARACTER-18C94dCHARACTER-18C95dCHARACTER-18C96dCHARACTER-18C97",
      "dCHARACTER-18C98dCHARACTER-18C99dCHARACTER-18C9AdCHARACTER-18C9BdCHARACTER-18C9C",
      "dCHARACTER-18C9DdCHARACTER-18C9EdCHARACTER-18C9FdCHARACTER-18CA0dCHARACTER-18CA1",
      "dCHARACTER-18CA2dCHARACTER-18CA3dCHARACTER-18CA4dCHARACTER-18CA5dCHARACTER-18CA6",
      "dCHARACTER-18CA7dCHARACTER-18CA8dCHARACTER-18CA9dCHARACTER-18CAAdCHARACTER-18CAB",
      "dCHARACTER-18CACdCHARACTER-18CADdCHARACTER-18CAEdCHARACTER-18CAFdCHARACTER-18CB0",
      "dCHARACTER-18CB1dCHARACTER-18CB2dCHARACTER-18CB3dCHARACTER-18CB4dCHARACTER-18CB5",
      "dCHARACTER-18CB6dCHARACTER-18CB7dCHARACTER-18CB8dCHARACTER-18CB9dCHARACTER-18CBA",
      "dCHARACTER-18CBBdCHARACTER-18CBCdCHARACTER-18CBDdCHARACTER-18CBEdCHARACTER-18CBF",
      "dCHARACTER-18CC0dCHARACTER-18CC1dCHARACTER-18CC2dCHARACTER-18CC3dCHARACTER-18CC4",
      "dCHARACTER-18CC5dCHARACTER-18CC6dCHARACTER-18CC7dCHARACTER-18CC8dCHARACTER-18CC9",
      "dCHARACTER-18CCAdCHARACTER-18CCBdCHARACTER-18CCCdCHARACTER-18CCDdCHARACTER-18CCE",
      "dCHARACTER-18CCFdCHARACTER-18CD0dCHARACTER-18CD1dCHARACTER-18CD2dCHARACTER-18CD3",
      "dCHARACTER-18CD4dCHARACTER-18CD5"]⟩]

def namesFrom1AFF0 : List NameRun :=
  [⟨0x1aff0, ["aKATAKANA LETTER MINNAN TONE-2dTONE-3dTONE-4dTONE-5"]⟩,
    ⟨0x1aff5, ["aKATAKANA LETTER MINNAN TONE-7dTONE-8dNASALIZED TONE-1eTONE-2eTONE-3eTONE-4",
      "eTONE-5"]⟩,
    ⟨0x1affd, ["aKATAKANA LETTER MINNAN NASALIZED TONE-7eTONE-8"]⟩,
    ⟨0x1b000, ["aKATAKANA LETTER ARCHAIC EaHIRAGANA LETTER ARCHAIC YEaHENTAIGANA LETTER A-1cA-2",
      "cA-3cA-WOcI-1cI-2cI-3cI-4cU-1cU-2cU-3cU-4cU-5cE-2cE-3cE-4cE-5cE-6cO-1cO-2cO-3cKA-1cKA-2",
      "cKA-3cKA-4cKA-5cKA-6cKA-7cKA-8cKA-9cKA-10cKA-11cKA-KEcKI-1cKI-2cKI-3cKI-4cKI-5cKI-6",
      "cKI-7cKI-8cKU-1cKU-2cKU-3cKU-4cKU-5cKU-6cKU-7cKE-1cKE-2cKE-3cKE-4cKE-5cKE-6cKO-1cKO-2",
      "cKO-3cKO-KIcSA-1cSA-2cSA-3cSA-4cSA-5cSA-6cSA-7cSA-8cSI-1cSI-2cSI-3cSI-4cSI-5cSI-6cSU-1",
      "cSU-2cSU-3cSU-4cSU-5cSU-6cSU-7cSU-8cSE-1cSE-2cSE-3cSE-4cSE-5cSO-1cSO-2cSO-3cSO-4cSO-5",
      "cSO-6cSO-7cTA-1cTA-2cTA-3cTA-4cTI-1cTI-2cTI-3cTI-4cTI-5cTI-6cTI-7cTU-1cTU-2cTU-3cTU-4",
      "cTU-TOcTE-1cTE-2cTE-3cTE-4cTE-5cTE-6cTE-7cTE-8cTE-9cTO-1cTO-2cTO-3cTO-4cTO-5cTO-6cTO-RA",
      "cNA-1cNA-2cNA-3cNA-4cNA-5cNA-6cNA-7cNA-8cNA-9cNI-1cNI-2cNI-3cNI-4cNI-5cNI-6cNI-7cNI-TE",
      "cNU-1cNU-2cNU-3cNE-1cNE-2cNE-3cNE-4cNE-5cNE-6cNE-KOcNO-1cNO-2cNO-3cNO-4cNO-5cHA-1cHA-2",
      "cHA-3cHA-4cHA-5cHA-6cHA-7cHA-8cHA-9cHA-10cHA-11cHI-1cHI-2cHI-3cHI-4cHI-5cHI-6cHI-7cHU-1",
      "cHU-2cHU-3cHE-1cHE-2cHE-3cHE-4cHE-5cHE-6cHE-7cHO-1cHO-2cHO-3cHO-4cHO-5cHO-6cHO-7cHO-8",
      "cMA-1cMA-2cMA-3cMA-4cMA-5cMA-6cMA-7cMI-1cMI-2cMI-3cMI-4cMI-5cMI-6cMI-7cMU-1cMU-2cMU-3",
      "cMU-4cME-1cME-2cME-MAcMO-1cMO-2cMO-3cMO-4cMO-5cMO-6cYA-1cYA-2cYA-3cYA-4cYA-5cYA-YOcYU-1",
      "cYU-2cYU-3cYU-4cYO-1cYO-2cYO-3cYO-4cYO-5cYO-6cRA-1cRA-2cRA-3cRA-4cRI-1cRI-2cRI-3cRI-4",
      "cRI-5cRI-6cRI-7cRU-1cRU-2cRU-3cRU-4cRU-5cRU-6cRE-1cRE-2cRE-3cRE-4cRO-1cRO-2cRO-3cRO-4",
      "cRO-5cRO-6cWA-1cWA-2cWA-3cWA-4cWA-5cWI-1cWI-2cWI-3cWI-4cWI-5cWE-1cWE-2cWE-3cWE-4cWO-1",
      "cWO-2cWO-3cWO-4cWO-5cWO-6cWO-7cN-MU-MO-1cN-MU-MO-2aHIRAGANA LETTER ARCHAIC WU",
      "aKATAKANA LETTER ARCHAIC YIdYEdWU"]⟩,
    ⟨0x1b150, ["aHIRAGANA LETTER SMALL WIdWEdWO"]⟩,
    ⟨0x1b164, ["aKATAKANA LETTER SMALL WIdWEdWOdN"]⟩,
    ⟨0x1b170, ["aNUSHU CHARACTER-1B170bCHARACTER-1B171bCHARACTER-1B172bCHARACTER-1B173",
      "bCHARACTER-1B174bCHARACTER-1B175bCHARACTER-1B176bCHARACTER-1B177bCHARACTER-1B178",
      "bCHARACTER-1B179bCHARACTER-1B17AbCHARACTER-1B17BbCHARACTER-1B17CbCHARACTER-1B17D",
      "bCHARACTER-1B17EbCHARACTER-1B17FbCHARACTER-1B180bCHARACTER-1B181bCHARACTER-1B182",
      "bCHARACTER-1B183bCHARACTER-1B184bCHARACTER-1B185bCHARACTER-1B186bCHARACTER-1B187",
      "bCHARACTER-1B188bCHARACTER-1B189bCHARACTER-1B18AbCHARACTER-1B18BbCHARACTER-1B18C",
      "bCHARACTER-1B18DbCHARACTER-1B18EbCHARACTER-1B18FbCHARACTER-1B190bCHARACTER-1B191",
      "bCHARACTER-1B192bCHARACTER-1B193bCHARACTER-1B194bCHARACTER-1B195bCHARACTER-1B196",
      "bCHARACTER-1B197bCHARACTER-1B198bCHARACTER-1B199bCHARACTER-1B19AbCHARACTER-1B19B",
      "bCHARACTER-1B19CbCHARACTER-1B19DbCHARACTER-1B19EbCHARACTER-1B19FbCHARACTER-1B1A0",
      "bCHARACTER-1B1A1bCHARACTER-1B1A2bCHARACTER-1B1A3bCHARACTER-1B1A4bCHARACTER-1B1A5",
      "bCHARACTER-1B1A6bCHARACTER-1B1A7bCHARACTER-1B1A8bCHARACTER-1B1A9bCHARACTER-1B1AA",
      "bCHARACTER-1B1ABbCHARACTER-1B1ACbCHARACTER-1B1ADbCHARACTER-1B1AEbCHARACTER-1B1AF",
      "bCHARACTER-1B1B0bCHARACTER-1B1B1bCHARACTER-1B1B2bCHARACTER-1B1B3bCHARACTER-1B1B4",
      "bCHARACTER-1B1B5bCHARACTER-1B1B6bCHARACTER-1B1B7bCHARACTER-1B1B8bCHARACTER-1B1B9",
      "bCHARACTER-1B1BAbCHARACTER-1B1BBbCHARACTER-1B1BCbCHARACTER-1B1BDbCHARACTER-1B1BE",
      "bCHARACTER-1B1BFbCHARACTER-1B1C0bCHARACTER-1B1C1bCHARACTER-1B1C2bCHARACTER-1B1C3",
      "bCHARACTER-1B1C4bCHARACTER-1B1C5bCHARACTER-1B1C6bCHARACTER-1B1C7bCHARACTER-1B1C8",
      "bCHARACTER-1B1C9bCHARACTER-1B1CAbCHARACTER-1B1CBbCHARACTER-1B1CCbCHARACTER-1B1CD",
      "bCHARACTER-1B1CEbCHARACTER-1B1CFbCHARACTER-1B1D0bCHARACTER-1B1D1bCHARACTER-1B1D2",
      "bCHARACTER-1B1D3bCHARACTER-1B1D4bCHARACTER-1B1D5bCHARACTER-1B1D6bCHARACTER-1B1D7",
      "bCHARACTER-1B1D8bCHARACTER-1B1D9bCHARACTER-1B1DAbCHARACTER-1B1DBbCHARACTER-1B1DC",
      "bCHARACTER-1B1DDbCHARACTER-1B1DEbCHARACTER-1B1DFbCHARACTER-1B1E0bCHARACTER-1B1E1",
      "bCHARACTER-1B1E2bCHARACTER-1B1E3bCHARACTER-1B1E4bCHARACTER-1B1E5bCHARACTER-1B1E6",
      "bCHARACTER-1B1E7bCHARACTER-1B1E8bCHARACTER-1B1E9bCHARACTER-1B1EAbCHARACTER-1B1EB",
      "bCHARACTER-1B1ECbCHARACTER-1B1EDbCHARACTER-1B1EEbCHARACTER-1B1EFbCHARACTER-1B1F0",
      "bCHARACTER-1B1F1bCHARACTER-1B1F2bCHARACTER-1B1F3bCHARACTER-1B1F4bCHARACTER-1B1F5",
      "bCHARACTER-1B1F6bCHARACTER-1B1F7bCHARACTER-1B1F8bCHARACTER-1B1F9bCHARACTER-1B1FA",
      "bCHARACTER-1B1FBbCHARACTER-1B1FCbCHARACTER-1B1FDbCHARACTER-1B1FEbCHARACTER-1B1FF",
      "bCHARACTER-1B200bCHARACTER-1B201bCHARACTER-1B202bCHARACTER-1B203bCHARACTER-1B204",
      "bCHARACTER-1B205bCHARACTER-1B206bCHARACTER-1B207bCHARACTER-1B208bCHARACTER-1B209",
      "bCHARACTER-1B20AbCHARACTER-1B20BbCHARACTER-1B20CbCHARACTER-1B20DbCHARACTER-1B20E",
      "bCHARACTER-1B20FbCHARACTER-1B210bCHARACTER-1B211bCHARACTER-1B212bCHARACTER-1B213",
      "bCHARACTER-1B214bCHARACTER-1B215bCHARACTER-1B216bCHARACTER-1B217bCHARACTER-1B218",
      "bCHARACTER-1B219bCHARACTER-1B21AbCHARACTER-1B21BbCHARACTER-1B21CbCHARACTER-1B21D",
      "bCHARACTER-1B21EbCHARACTER-1B21FbCHARACTER-1B220bCHARACTER-1B221bCHARACTER-1B222",
      "bCHARACTER-1B223bCHARACTER-1B224bCHARACTER-1B225bCHARACTER-1B226bCHARACTER-1B227",
      "bCHARACTER-1B228bCHARACTER-1B229bCHARACTER-1B22AbCHARACTER-1B22BbCHARACTER-1B22C",
      "bCHARACTER-1B22DbCHARACTER-1B22EbCHARACTER-1B22FbCHARACTER-1B230bCHARACTER-1B231",
      "bCHARACTER-1B232bCHARACTER-1B233bCHARACTER-1B234bCHARACTER-1B235bCHARACTER-1B236",
      "bCHARACTER-1B237bCHARACTER-1B238bCHARACTER-1B239bCHARACTER-1B23AbCHARACTER-1B23B",
      "bCHARACTER-1B23CbCHARACTER-1B23DbCHARACTER-1B23EbCHARACTER-1B23FbCHARACTER-1B240",
      "bCHARACTER-1B241bCHARACTER-1B242bCHARACTER-1B243bCHARACTER-1B244bCHARACTER-1B245",
      "bCHARACTER-1B246bCHARACTER-1B247bCHARACTER-1B248bCHARACTER-1B249bCHARACTER-1B24A",
      "bCHARACTER-1B24BbCHARACTER-1B24CbCHARACTER-1B24DbCHARACTER-1B24EbCHARACTER-1B24F",
      "bCHARACTER-1B250bCHARACTER-1B251bCHARACTER-1B252bCHARACTER-1B253bCHARACTER-1B254",
      "bCHARACTER-1B255bCHARACTER-1B256bCHARACTER-1B257bCHARACTER-1B258bCHARACTER-1B259",
      "bCHARACTER-1B25AbCHARACTER-1B25BbCHARACTER-1B25CbCHARACTER-1B25DbCHARACTER-1B25E",
      "bCHARACTER-1B25FbCHARACTER-1B260bCHARACTER-1B261bCHARACTER-1B262bCHARACTER-1B263",
      "bCHARACTER-1B264bCHARACTER-1B265bCHARACTER-1B266bCHARACTER-1B267bCHARACTER-1B268",
      "bCHARACTER-1B269bCHARACTER-1B26AbCHARACTER-1B26BbCHARACTER-1B26CbCHARACTER-1B26D",
      "bCHARACTER-1B26EbCHARACTER-1B26FbCHARACTER-1B270bCHARACTER-1B271bCHARACTER-1B272",
      "bCHARACTER-1B273bCHARACTER-1B274bCHARACTER-1B275bCHARACTER-1B276bCHARACTER-1B277",
      "bCHARACTER-1B278bCHARACTER-1B279bCHARACTER-1B27AbCHARACTER-1B27BbCHARACTER-1B27C",
      "bCHARACTER-1B27DbCHARACTER-1B27EbCHARACTER-1B27FbCHARACTER-1B280bCHARACTER-1B281",
      "bCHARACTER-1B282bCHARACTER-1B283bCHARACTER-1B284bCHARACTER-1B285bCHARACTER-1B286",
      "bCHARACTER-1B287bCHARACTER-1B288bCHARACTER-1B289bCHARACTER-1B28AbCHARACTER-1B28B",
      "bCHARACTER-1B28CbCHARACTER-1B28DbCHARACTER-1B28EbCHARACTER-1B28FbCHARACTER-1B290",
      "bCHARACTER-1B291bCHARACTER-1B292bCHARACTER-1B293bCHARACTER-1B294bCHARACTER-1B295",
      "bCHARACTER-1B296bCHARACTER-1B297bCHARACTER-1B298bCHARACTER-1B299bCHARACTER-1B29A",
      "bCHARACTER-1B29BbCHARACTER-1B29CbCHARACTER-1B29DbCHARACTER-1B29EbCHARACTER-1B29F",
      "bCHARACTER-1B2A0bCHARACTER-1B2A1bCHARACTER-1B2A2bCHARACTER-1B2A3bCHARACTER-1B2A4",
      "bCHARACTER-1B2A5bCHARACTER-1B2A6bCHARACTER-1B2A7bCHARACTER-1B2A8bCHARACTER-1B2A9",
      "bCHARACTER-1B2AAbCHARACTER-1B2ABbCHARACTER-1B2ACbCHARACTER-1B2ADbCHARACTER-1B2AE",
      "bCHARACTER-1B2AFbCHARACTER-1B2B0bCHARACTER-1B2B1bCHARACTER-1B2B2bCHARACTER-1B2B3",
      "bCHARACTER-1B2B4bCHARACTER-1B2B5bCHARACTER-1B2B6bCHARACTER-1B2B7bCHARACTER-1B2B8",
      "bCHARACTER-1B2B9bCHARACTER-1B2BAbCHARACTER-1B2BBbCHARACTER-1B2BCbCHARACTER-1B2BD",
      "bCHARACTER-1B2BEbCHARACTER-1B2BFbCHARACTER-1B2C0bCHARACTER-1B2C1bCHARACTER-1B2C2",
      "bCHARACTER-1B2C3bCHARACTER-1B2C4bCHARACTER-1B2C5bCHARACTER-1B2C6bCHARACTER-1B2C7",
      "bCHARACTER-1B2C8bCHARACTER-1B2C9bCHARACTER-1B2CAbCHARACTER-1B2CBbCHARACTER-1B2CC",
      "bCHARACTER-1B2CDbCHARACTER-1B2CEbCHARACTER-1B2CFbCHARACTER-1B2D0bCHARACTER-1B2D1",
      "bCHARACTER-1B2D2bCHARACTER-1B2D3bCHARACTER-1B2D4bCHARACTER-1B2D5bCHARACTER-1B2D6",
      "bCHARACTER-1B2D7bCHARACTER-1B2D8bCHARACTER-1B2D9bCHARACTER-1B2DAbCHARACTER-1B2DB",
      "bCHARACTER-1B2DCbCHARACTER-1B2DDbCHARACTER-1B2DEbCHARACTER-1B2DFbCHARACTER-1B2E0",
      "bCHARACTER-1B2E1bCHARACTER-1B2E2bCHARACTER-1B2E3bCHARACTER-1B2E4bCHARACTER-1B2E5",
      "bCHARACTER-1B2E6bCHARACTER-1B2E7bCHARACTER-1B2E8bCHARACTER-1B2E9bCHARACTER-1B2EA",
      "bCHARACTER-1B2EBbCHARACTER-1B2ECbCHARACTER-1B2EDbCHARACTER-1B2EEbCHARACTER-1B2EF",
      "bCHARACTER-1B2F0bCHARACTER-1B2F1bCHARACTER-1B2F2bCHARACTER-1B2F3bCHARACTER-1B2F4",
      "bCHARACTER-1B2F5bCHARACTER-1B2F6bCHARACTER-1B2F7bCHARACTER-1B2F8bCHARACTER-1B2F9",
      "bCHARACTER-1B2FAbCHARACTER-1B2FB"]⟩,
    ⟨0x1bc00, ["aDUPLOYAN LETTER HcXcPcTcFcKcLcBcDcVcGcRcP NcD ScF NcK McR ScTHcSLOAN DHcDHcKK",
      "cSLOAN JcHLcLHcRHcMcNcJcScM NcN McJ McS JcM WITH DOTcN WITH DOTcJ WITH DOT",
      "eDOTS INSIDE AND ABOVEcS WITH DOTfBELOWcM ScN ScJ ScS ScM N ScN M ScJ M ScS J S",
      "cJ S WITH DOTdNeScS TeRdPeRcT SdR ScWcWHcW RcS NdMcK R ScG R ScS KeRcAcSLOAN OWcOAcO",
      "cAOUcIcEcIEcSHORT IcUIcEEcSLOAN EHcROMANIAN IcSLOAN EEcLONG IcYEcUcEUcXWcU NcLONG U",
      "cROMANIAN UcUHcSLOAN UcOOHcOWcOUcWAcWOcWIcWEIcWOWcNASAL UdOdIdAcPERNIN ANdAMcSLOAN EN",
      "dANdONcVOCALIC M"]⟩,
    ⟨0x1bc70, ["aDUPLOYAN AFFIX LEFT HORIZONTAL SECANTcMID HORIZONTAL SECANT",
      "cRIGHT HORIZONTAL SECANTcLOW VERTICAL SECANTcMID VERTICAL SECANTcHIGH VERTICAL SECANT",
      "cATTACHED SECANTdLEFT-TO-RIGHT SECANTdTANGENTdTAILdE HOOKdI HOOKdTANGENT HOOK"]⟩,
    ⟨0x1bc80, ["aDUPLOYAN AFFIX HIGH ACUTEdTIGHT ACUTEdGRAVEdLONG GRAVEdDOTdCIRCLEdLINEdWAVE",
      "dVERTICAL"]⟩,
    ⟨0x1bc90, ["aDUPLOYAN AFFIX LOW ACUTEdTIGHT ACUTEdGRAVEdLONG GRAVEdDOTdCIRCLEdLINEdWAVE",
      "dVERTICALdARROW"]⟩]

def namesFrom1BC9C : List NameRun :=
  [⟨0x1bc9c, ["aDUPLOYAN SIGN O WITH CROSSbTHICK LETTER SELECTORbDOUBLE MARK",
      "bPUNCTUATION CHINOOK FULL STOPaSHORTHAND FORMAT LETTER OVERLAPcCONTINUING OVERLAP",
      "cDOWN STEPcUP STEP"]⟩]

/-- The names of the characters from U+10000 to U+1BFFF. -/
def historicNames : List NameRun :=
  namesFrom10000 ++ namesFrom10600 ++ namesFrom10C00 ++ namesFrom11335 ++ namesFrom11C0A ++
    namesFrom11FFF ++ namesFrom12480 ++ namesFrom14400 ++ namesFrom16F4F ++ namesFrom18800 ++
    namesFrom1AFF0 ++ namesFrom1BC9C

end ModuleGlue.Text
