/-! Names of characters: Europe and the Near East. -/

namespace EntityGen.Text.CharName

/-- Names by code point, in the form that `CharName.find?` reads. -/
def europeanNames : List String := [
  "@00020aaSPACEaaEXCLAMATION MARKaaQUOTATION MARKaaNUMBER SIGNaaDOLLAR SIGNaaPERCENT SIGNaaAMPER",
  "SANDabPOSTROPHEaaLEFT PARENTHESISaaRIGHT PARENTHESISaaASTERISKaaPLUS SIGNaaCOMMAaaHYPHEN-MINUS",
  "aaFULL STOPaaSOLIDUSaaDIGIT ZEROagONEagTWOahHREEagFOURahIVEagSIXahEVENagEIGHTagNINEaaCOLONaaSE",
  "MICOLONaaLESS-THAN SIGNaaEQUALS SIGNaaGREATER-THAN SIGNaaQUESTION MARKaaCOMMERCIAL ATaaLATIN C",
  "APITAL LETTER AavBavCavDavEavFavGavHavIavJavKavLavMavNavOavPavQavRavSavTavUavVavWavXavYavZabEF",
  "T SQUARE BRACKETaaREVERSE SOLIDUSabIGHT SQUARE BRACKETaaCIRCUMFLEX ACCENTaaLOW LINEaaGRAVE ACC",
  "ENTaaLATIN SMALL LETTER AatBatCatDatEatFatGatHatIatJatKatLatMatNatOatPatQatRatSatTatUatVatWatX",
  "atYatZabEFT CURLY BRACKETaaVERTICAL LINEaaRIGHT CURLY BRACKETaaTILDE@000A0aaNO-BREAK SPACEaaIN",
  "VERTED EXCLAMATION MARKaaCENT SIGNaaPOUND SIGNaaCURRENCY SIGNaaYEN SIGNaaBROKEN BARaaSECTION S",
  "IGNaaDIAERESISaaCOPYRIGHT SIGNaaFEMININE ORDINAL INDICATORaaLEFT-POINTING DOUBLE ANGLE QUOTATI",
  "ON MARKaaNOT SIGNaaSOFT HYPHENaaREGISTERED SIGNaaMACRONaaDEGREE SIGNaaPLUS-MINUS SIGNaaSUPERSC",
  "RIPT TWOanHREEaaACUTE ACCENTaaMICRO SIGNaaPILCROW SIGNaaMIDDLE DOTaaCEDILLAaaSUPERSCRIPT ONEaa",
  "MASCULINE ORDINAL INDICATORaaRIGHT-POINTING DOUBLE ANGLE QUOTATION MARKaaVULGAR FRACTION ONE Q",
  "UARTERauHALFaqTHREE QUARTERSaaINVERTED QUESTION MARKaaLATIN CAPITAL LETTER A WITH GRAVEbcACUTE",
  "bcCIRCUMFLEXbcTILDEbcDIAERESISbcRING ABOVEawEavC WITH CEDILLAavE WITH GRAVEbcACUTEbcCIRCUMFLEX",
  "bcDIAERESISavI WITH GRAVEbcACUTEbcCIRCUMFLEXbcDIAERESISavETHavN WITH TILDEavO WITH GRAVEbcACUT",
  "EbcCIRCUMFLEXbcTILDEbcDIAERESISaaMULTIPLICATION SIGNaaLATIN CAPITAL LETTER O WITH STROKEavU WI",
  "TH GRAVEbcACUTEbcCIRCUMFLEXbcDIAERESISavY WITH ACUTEavTHORNagSMALL LETTER SHARP SatA WITH GRAV",
  "EbaACUTEbaCIRCUMFLEXbaTILDEbaDIAERESISbaRING ABOVEauEatC WITH CEDILLAatE WITH GRAVEbaACUTEbaCI",
  "RCUMFLEXbaDIAERESISatI WITH GRAVEbaACUTEbaCIRCUMFLEXbaDIAERESISatETHatN WITH TILDEatO WITH GRA",
  "VEbaACUTEbaCIRCUMFLEXbaTILDEbaDIAERESISaaDIVISION SIGNaaLATIN SMALL LETTER O WITH STROKEatU WI",
  "TH GRAVEbaACUTEbaCIRCUMFLEXbaDIAERESISatY WITH ACUTEatTHORNatY WITH DIAERESISagCAPITAL LETTER ",
  "A WITH MACRONagSMALL LETTER A WITH MACRONagCAPITAL LETTER A WITH BREVEagSMALL LETTER A WITH BR",
  "EVEagCAPITAL LETTER A WITH OGONEKagSMALL LETTER A WITH OGONEKagCAPITAL LETTER C WITH ACUTEagSM",
  "ALL LETTER C WITH ACUTEagCAPITAL LETTER C WITH CIRCUMFLEXagSMALL LETTER C WITH CIRCUMFLEXagCAP",
  "ITAL LETTER C WITH DOT ABOVEagSMALL LETTER C WITH DOT ABOVEagCAPITAL LETTER C WITH CARONagSMAL",
  "L LETTER C WITH CARONagCAPITAL LETTER D WITH CARONagSMALL LETTER D WITH CARONagCAPITAL LETTER ",
  "D WITH STROKEagSMALL LETTER D WITH STROKEagCAPITAL LETTER E WITH MACRONagSMALL LETTER E WITH M",
  "ACRONagCAPITAL LETTER E WITH BREVEagSMALL LETTER E WITH BREVEagCAPITAL LETTER E WITH DOT ABOVE",
  "agSMALL LETTER E WITH DOT ABOVEagCAPITAL LETTER E WITH OGONEKagSMALL LETTER E WITH OGONEKagCAP",
  "ITAL LETTER E WITH CARONagSMALL LETTER E WITH CARONagCAPITAL LETTER G WITH CIRCUMFLEXagSMALL L",
  "ETTER G WITH CIRCUMFLEXagCAPITAL LETTER G WITH BREVEagSMALL LETTER G WITH BREVEagCAPITAL LETTE",
  "R G WITH DOT ABOVEagSMALL LETTER G WITH DOT ABOVEagCAPITAL LETTER G WITH CEDILLAagSMALL LETTER",
  " G WITH CEDILLAagCAPITAL LETTER H WITH CIRCUMFLEXagSMALL LETTER H WITH CIRCUMFLEXagCAPITAL LET",
  "TER H WITH STROKEagSMALL LETTER H WITH STROKEagCAPITAL LETTER I WITH TILDEagSMALL LETTER I WIT",
  "H TILDEagCAPITAL LETTER I WITH MACRONagSMALL LETTER I WITH MACRONagCAPITAL LETTER I WITH BREVE",
  "agSMALL LETTER I WITH BREVEagCAPITAL LETTER I WITH OGONEKagSMALL LETTER I WITH OGONEKagCAPITAL",
  " LETTER I WITH DOT ABOVEagSMALL LETTER DOTLESS IagCAPITAL LIGATURE IJagSMALL LIGATURE IJagCAPI",
  "TAL LETTER J WITH CIRCUMFLEXagSMALL LETTER J WITH CIRCUMFLEXagCAPITAL LETTER K WITH CEDILLAagS",
  "MALL LETTER K WITH CEDILLAauRAagCAPITAL LETTER L WITH ACUTEagSMALL LETTER L WITH ACUTEagCAPITA",
  "L LETTER L WITH CEDILLAagSMALL LETTER L WITH CEDILLAagCAPITAL LETTER L WITH CARONagSMALL LETTE",
  "R L WITH CARONagCAPITAL LETTER L WITH MIDDLE DOTagSMALL LETTER L WITH MIDDLE DOTagCAPITAL LETT",
  "ER L WITH STROKEagSMALL LETTER L WITH STROKEagCAPITAL LETTER N WITH ACUTEagSMALL LETTER N WITH",
  " ACUTEagCAPITAL LETTER N WITH CEDILLAagSMALL LETTER N WITH CEDILLAagCAPITAL LETTER N WITH CARO",
  "NagSMALL LETTER N WITH CARONavPRECEDED BY APOSTROPHEagCAPITAL LETTER ENGagSMALL LETTER ENGagCA",
  "PITAL LETTER O WITH MACRONagSMALL LETTER O WITH MACRONagCAPITAL LETTER O WITH BREVEagSMALL LET",
  "TER O WITH BREVEagCAPITAL LETTER O WITH DOUBLE ACUTEagSMALL LETTER O WITH DOUBLE ACUTEagCAPITA",
  "L LIGATURE OEagSMALL LIGATURE OEagCAPITAL LETTER R WITH ACUTEagSMALL LETTER R WITH ACUTEagCAPI",
  "TAL LETTER R WITH CEDILLAagSMALL LETTER R WITH CEDILLAagCAPITAL LETTER R WITH CARONagSMALL LET",
  "TER R WITH CARONagCAPITAL LETTER S WITH ACUTEagSMALL LETTER S WITH ACUTEagCAPITAL LETTER S WIT",
  "H CIRCUMFLEXagSMALL LETTER S WITH CIRCUMFLEXagCAPITAL LETTER S WITH CEDILLAagSMALL LETTER S WI",
  "TH CEDILLAagCAPITAL LETTER S WITH CARONagSMALL LETTER S WITH CARONagCAPITAL LETTER T WITH CEDI",
  "LLAagSMALL LETTER T WITH CEDILLAagCAPITAL LETTER T WITH CARONagSMALL LETTER T WITH CARONagCAPI",
  "TAL LETTER T WITH STROKEagSMALL LETTER T WITH STROKEagCAPITAL LETTER U WITH TILDEagSMALL LETTE",
  "R U WITH TILDEagCAPITAL LETTER U WITH MACRONagSMALL LETTER U WITH MACRONagCAPITAL LETTER U WIT",
  "H BREVEagSMALL LETTER U WITH BREVEagCAPITAL LETTER U WITH RING ABOVEagSMALL LETTER U WITH RING",
  " ABOVEagCAPITAL LETTER U WITH DOUBLE ACUTEagSMALL LETTER U WITH DOUBLE ACUTEagCAPITAL LETTER U",
  " WITH OGONEKagSMALL LETTER U WITH OGONEKagCAPITAL LETTER W WITH CIRCUMFLEXagSMALL LETTER W WIT",
  "H CIRCUMFLEXagCAPITAL LETTER Y WITH CIRCUMFLEXagSMALL LETTER Y WITH CIRCUMFLEXagCAPITAL LETTER",
  " Y WITH DIAERESISavZ WITH ACUTEagSMALL LETTER Z WITH ACUTEagCAPITAL LETTER Z WITH DOT ABOVEagS",
  "MALL LETTER Z WITH DOT ABOVEagCAPITAL LETTER Z WITH CARONagSMALL LETTER Z WITH CARONatLONG Sat",
  "B WITH STROKEagCAPITAL LETTER B WITH HOOKbcTOPBARagSMALL LETTER B WITH TOPBARagCAPITAL LETTER ",
  "TONE SIXagSMALL LETTER TONE SIXagCAPITAL LETTER OPEN OavC WITH HOOKagSMALL LETTER C WITH HOOKa",
  "gCAPITAL LETTER AFRICAN DavD WITH HOOKbcTOPBARagSMALL LETTER D WITH TOPBARatTURNED DELTAagCAPI",
  "TAL LETTER REVERSED EavSCHWAavOPEN EavF WITH HOOKagSMALL LETTER F WITH HOOKagCAPITAL LETTER G ",
  "WITH HOOKawAMMAagSMALL LETTER HVagCAPITAL LETTER IOTAaw WITH STROKEavK WITH HOOKagSMALL LETTER",
  " K WITH HOOKatL WITH BARauAMBDA WITH STROKEagCAPITAL LETTER TURNED MavN WITH LEFT HOOKagSMALL ",
  "LETTER N WITH LONG RIGHT LEGagCAPITAL LETTER O WITH MIDDLE TILDEbcHORNagSMALL LETTER O WITH HO",
  "RNagCAPITAL LETTER OIagSMALL LETTER OIagCAPITAL LETTER P WITH HOOKagSMALL LETTER P WITH HOOKag",
  "LETTER YRagCAPITAL LETTER TONE TWOagSMALL LETTER TONE TWOagCAPITAL LETTER ESHagLETTER REVERSED",
  " ESH LOOPagSMALL LETTER T WITH PALATAL HOOKagCAPITAL LETTER T WITH HOOKagSMALL LETTER T WITH H",
  "OOKagCAPITAL LETTER T WITH RETROFLEX HOOKavU WITH HORNagSMALL LETTER U WITH HORNagCAPITAL LETT",
  "ER UPSILONavV WITH HOOKavY WITH HOOKagSMALL LETTER Y WITH HOOKagCAPITAL LETTER Z WITH STROKEag",
  "SMALL LETTER Z WITH STROKEagCAPITAL LETTER EZHay REVERSEDagSMALL LETTER EZH REVERSEDaxWITH TAI",
  "LagLETTER TWO WITH STROKEagCAPITAL LETTER TONE FIVEagSMALL LETTER TONE FIVEagLETTER INVERTED G",
  "LOTTAL STOP WITH STROKEanWYNNanDENTAL CLICKanLATERAL CLICKanALVEOLAR CLICKanRETROFLEX CLICKagC",
  "APITAL LETTER DZ WITH CARONaw WITH SMALL LETTER Z WITH CARONagSMALL LETTER DZ WITH CARONagCAPI",
  "TAL LETTER LJaw WITH SMALL LETTER JagSMALL LETTER LJagCAPITAL LETTER NJaw WITH SMALL LETTER Ja",
  "gSMALL LETTER NJagCAPITAL LETTER A WITH CARONagSMALL LETTER A WITH CARONagCAPITAL LETTER I WIT",
  "H CARONagSMALL LETTER I WITH CARONagCAPITAL LETTER O WITH CARONagSMALL LETTER O WITH CARONagCA",
  "PITAL LETTER U WITH CARONagSMALL LETTER U WITH CARONagCAPITAL LETTER U WITH DIAERESIS AND MACR",
  "ONagSMALL LETTER U WITH DIAERESIS AND MACRONagCAPITAL LETTER U WITH DIAERESIS AND ACUTEagSMALL",
  " LETTER U WITH DIAERESIS AND ACUTEagCAPITAL LETTER U WITH DIAERESIS AND CARONagSMALL LETTER U ",
  "WITH DIAERESIS AND CARONagCAPITAL LETTER U WITH DIAERESIS AND GRAVEagSMALL LETTER U WITH DIAER",
  "ESIS AND GRAVEatTURNED EagCAPITAL LETTER A WITH DIAERESIS AND MACRONagSMALL LETTER A WITH DIAE",
  "RESIS AND MACRONagCAPITAL LETTER A WITH DOT ABOVE AND MACRONagSMALL LETTER A WITH DOT ABOVE AN",
  "D MACRONagCAPITAL LETTER AE WITH MACRONagSMALL LETTER AE WITH MACRONagCAPITAL LETTER G WITH ST",
  "ROKEagSMALL LETTER G WITH STROKEagCAPITAL LETTER G WITH CARONagSMALL LETTER G WITH CARONagCAPI",
  "TAL LETTER K WITH CARONagSMALL LETTER K WITH CARONagCAPITAL LETTER O WITH OGONEKagSMALL LETTER",
  " O WITH OGONEKagCAPITAL LETTER O WITH OGONEK AND MACRONagSMALL LETTER O WITH OGONEK AND MACRON",
  "agCAPITAL LETTER EZH WITH CARONagSMALL LETTER EZH WITH CARONatJ WITH CARONagCAPITAL LETTER DZa",
  "w WITH SMALL LETTER ZagSMALL LETTER DZagCAPITAL LETTER G WITH ACUTEagSMALL LETTER G WITH ACUTE",
  "agCAPITAL LETTER HWAIRavWYNNavN WITH GRAVEagSMALL LETTER N WITH GRAVEagCAPITAL LETTER A WITH R",
  "ING ABOVE AND ACUTEagSMALL LETTER A WITH RING ABOVE AND ACUTEagCAPITAL LETTER AE WITH ACUTEagS",
  "MALL LETTER AE WITH ACUTEagCAPITAL LETTER O WITH STROKE AND ACUTEagSMALL LETTER O WITH STROKE ",
  "AND ACUTEagCAPITAL LETTER A WITH DOUBLE GRAVEagSMALL LETTER A WITH DOUBLE GRAVEagCAPITAL LETTE",
  "R A WITH INVERTED BREVEagSMALL LETTER A WITH INVERTED BREVEagCAPITAL LETTER E WITH DOUBLE GRAV",
  "EagSMALL LETTER E WITH DOUBLE GRAVEagCAPITAL LETTER E WITH INVERTED BREVEagSMALL LETTER E WITH",
  " INVERTED BREVEagCAPITAL LETTER I WITH DOUBLE GRAVEagSMALL LETTER I WITH DOUBLE GRAVEagCAPITAL",
  " LETTER I WITH INVERTED BREVEagSMALL LETTER I WITH INVERTED BREVEagCAPITAL LETTER O WITH DOUBL",
  "E GRAVEagSMALL LETTER O WITH DOUBLE GRAVEagCAPITAL LETTER O WITH INVERTED BREVEagSMALL LETTER ",
  "O WITH INVERTED BREVEagCAPITAL LETTER R WITH DOUBLE GRAVEagSMALL LETTER R WITH DOUBLE GRAVEagC",
  "APITAL LETTER R WITH INVERTED BREVEagSMALL LETTER R WITH INVERTED BREVEagCAPITAL LETTER U WITH",
  " DOUBLE GRAVEagSMALL LETTER U WITH DOUBLE GRAVEagCAPITAL LETTER U WITH INVERTED BREVEagSMALL L",
  "ETTER U WITH INVERTED BREVEagCAPITAL LETTER S WITH COMMA BELOWagSMALL LETTER S WITH COMMA BELO",
  "WagCAPITAL LETTER T WITH COMMA BELOWagSMALL LETTER T WITH COMMA BELOWagCAPITAL LETTER YOGHagSM",
  "ALL LETTER YOGHagCAPITAL LETTER H WITH CARONagSMALL LETTER H WITH CARONagCAPITAL LETTER N WITH",
  " LONG RIGHT LEGagSMALL LETTER D WITH CURLagCAPITAL LETTER OUagSMALL LETTER OUagCAPITAL LETTER ",
  "Z WITH HOOKagSMALL LETTER Z WITH HOOKagCAPITAL LETTER A WITH DOT ABOVEagSMALL LETTER A WITH DO",
  "T ABOVEagCAPITAL LETTER E WITH CEDILLAagSMALL LETTER E WITH CEDILLAagCAPITAL LETTER O WITH DIA",
  "ERESIS AND MACRONagSMALL LETTER O WITH DIAERESIS AND MACRONagCAPITAL LETTER O WITH TILDE AND M",
  "ACRONagSMALL LETTER O WITH TILDE AND MACRONagCAPITAL LETTER O WITH DOT ABOVEagSMALL LETTER O W",
  "ITH DOT ABOVEagCAPITAL LETTER O WITH DOT ABOVE AND MACRONagSMALL LETTER O WITH DOT ABOVE AND M",
  "ACRONagCAPITAL LETTER Y WITH MACRONagSMALL LETTER Y WITH MACRONatL WITH CURLatN WITH CURLatT W",
  "ITH CURLatDOTLESS JauB DIGRAPHatQP DIGRAPHagCAPITAL LETTER A WITH STROKEavC WITH STROKEagSMALL",
  " LETTER C WITH STROKEagCAPITAL LETTER L WITH BARavT WITH DIAGONAL STROKEagSMALL LETTER S WITH ",
  "SWASH TAILatZ WITH SWASH TAILagCAPITAL LETTER GLOTTAL STOPagSMALL LETTER GLOTTAL STOPagCAPITAL",
  " LETTER B WITH STROKEavU BARavTURNED VavE WITH STROKEagSMALL LETTER E WITH STROKEagCAPITAL LET",
  "TER J WITH STROKEagSMALL LETTER J WITH STROKEagCAPITAL LETTER SMALL Q WITH HOOK TAILagSMALL LE",
  "TTER Q WITH HOOK TAILagCAPITAL LETTER R WITH STROKEagSMALL LETTER R WITH STROKEagCAPITAL LETTE",
  "R Y WITH STROKEagSMALL LETTER Y WITH STROKEatTURNED AatALPHAatTURNED ALPHAatB WITH HOOKatOPEN ",
  "OatC WITH CURLatD WITH TAILbaHOOKatREVERSED EatSCHWAay WITH HOOKatOPEN EatREVERSED OPEN Ebi WI",
  "TH HOOKatCLOSED REVERSED OPEN EatDOTLESS J WITH STROKEatG WITH HOOKatSCRIPT GagLETTER SMALL CA",
  "PITAL GagSMALL LETTER GAMMAatRAMS HORNatTURNED HatH WITH HOOKauENG WITH HOOKatI WITH STROKEauO",
  "TAagLETTER SMALL CAPITAL IagSMALL LETTER L WITH MIDDLE TILDEbaBELTbaRETROFLEX HOOKauEZHatTURNE",
  "D Mbb WITH LONG LEGatM WITH HOOKatN WITH LEFT HOOKbaRETROFLEX HOOKagLETTER SMALL CAPITAL NagSM",
  "ALL LETTER BARRED OagLETTER SMALL CAPITAL OEagSMALL LETTER CLOSED OMEGAatPHIatTURNED Rbb WITH ",
  "LONG LEGbhHOOKatR WITH LONG LEGbaTAILbaFISHHOOKauEVERSED R WITH FISHHOOKagLETTER SMALL CAPITAL",
  " RbbINVERTED RagSMALL LETTER S WITH HOOKatESHatDOTLESS J WITH STROKE AND HOOKatSQUAT REVERSED ",
  "ESHatESH WITH CURLatTURNED Tau WITH RETROFLEX HOOKatU BARauPSILONatV WITH HOOKatTURNED VbaWbaY",
  "agLETTER SMALL CAPITAL YagSMALL LETTER Z WITH RETROFLEX HOOKbaCURLatEZHaw WITH CURLagLETTER GL",
  "OTTAL STOPanPHARYNGEAL VOICED FRICATIVEanINVERTED GLOTTAL STOPanSTRETCHED CanBILABIAL CLICKanS",
  "MALL CAPITAL BagSMALL LETTER CLOSED OPEN EagLETTER SMALL CAPITAL G WITH HOOKbbHagSMALL LETTER ",
  "J WITH CROSSED-TAILatTURNED KagLETTER SMALL CAPITAL LagSMALL LETTER Q WITH HOOKagLETTER GLOTTA",
  "L STOP WITH STROKEanREVERSED GLOTTAL STOP WITH STROKEagSMALL LETTER DZ DIGRAPHauEZH DIGRAPHauZ",
  " DIGRAPH WITH CURLatTS DIGRAPHauESH DIGRAPHauC DIGRAPH WITH CURLatFENG DIGRAPHatLS DIGRAPHauZ ",
  "DIGRAPHagLETTER BILABIAL PERCUSSIVEapDENTAL PERCUSSIVEagSMALL LETTER TURNED H WITH FISHHOOKbp ",
  "AND TAILaaMODIFIER LETTER SMALL Hax WITH HOOKawJawRawTURNED Rbe WITH HOOKawCAPITAL INVERTED Ra",
  "wWawYaqPRIMEaqDOUBLE PRIMEaqTURNED COMMAaqAPOSTROPHEaqREVERSED COMMAarIGHT HALF RINGaqLEFT HAL",
  "F RINGaqGLOTTAL STOPaqREVERSED GLOTTAL STOPaqLEFT ARROWHEADaqRIGHT ARROWHEADaqUP ARROWHEADaqDO",
  "WN ARROWHEADaqCIRCUMFLEX ACCENTaaCARONaaMODIFIER LETTER VERTICAL LINEaqMACRONaqACUTE ACCENTaqG",
  "RAVE ACCENTaqLOW VERTICAL LINEauMACRONauGRAVE ACCENTauACUTE ACCENTaqTRIANGULAR COLONaqHALF TRI",
  "ANGULAR COLONaqCENTRED RIGHT HALF RINGayLEFT HALF RINGaqUP TACKaqDOWN TACKaqPLUS SIGNaqMINUS S",
  "IGNaaBREVEaaDOT ABOVEaaRING ABOVEaaOGONEKaaSMALL TILDEaaDOUBLE ACUTE ACCENTaaMODIFIER LETTER R",
  "HOTIC HOOKaqCROSS ACCENTaqSMALL GAMMAawLawSawXawREVERSED GLOTTAL STOPaqEXTRA-HIGH TONE BARaqHI",
  "GH TONE BARaqMID TONE BARaqLOW TONE BARaqEXTRA-LOW TONE BARaqYIN DEPARTING TONE MARKarANG DEPA",
  "RTING TONE MARKaqVOICINGaqUNASPIRATEDaqDOUBLE APOSTROPHEaqLOW DOWN ARROWHEADauUP ARROWHEADauLE",
  "FT ARROWHEADauRIGHT ARROWHEADawNGaqMIDDLE GRAVE ACCENTaxDOUBLE GRAVE ACCENTbeACUTE ACCENTaqLOW",
  " TILDEaqRAISED COLONaqBEGIN HIGH TONEaqEND HIGH TONEaqBEGIN LOW TONEaqEND LOW TONEaqSHELFaqOPE",
  "N SHELFaqLOW LEFT ARROWaaCOMBINING GRAVE ACCENTakACUTE ACCENTakCIRCUMFLEX ACCENTakTILDEakMACRO",
  "NakOVERLINEakBREVEakDOT ABOVEalIAERESISakHOOK ABOVEakRING ABOVEakDOUBLE ACUTE ACCENTakCARONakV",
  "ERTICAL LINE ABOVEakDOUBLE VERTICAL LINE ABOVEarGRAVE ACCENTakCANDRABINDUakINVERTED BREVEakTUR",
  "NED COMMA ABOVEakCOMMA ABOVEakREVERSED COMMA ABOVEakCOMMA ABOVE RIGHTakGRAVE ACCENT BELOWakACU",
  "TE ACCENT BELOWakLEFT TACK BELOWakRIGHT TACK BELOWakLEFT ANGLE ABOVEakHORNakLEFT HALF RING BEL",
  "OWakUP TACK BELOWakDOWN TACK BELOWakPLUS SIGN BELOWakMINUS SIGN BELOWakPALATALIZED HOOK BELOWa",
  "kRETROFLEX HOOK BELOWakDOT BELOWalIAERESIS BELOWakRING BELOWakCOMMA BELOWalEDILLAakOGONEKakVER",
  "TICAL LINE BELOWakBRIDGE BELOWakINVERTED DOUBLE ARCH BELOWakCARON BELOWalIRCUMFLEX ACCENT BELO",
  "WakBREVE BELOWakINVERTED BREVE BELOWakTILDE BELOWakMACRON BELOWakLOW LINEakDOUBLE LOW LINEakTI",
  "LDE OVERLAYakSHORT STROKE OVERLAYakLONG STROKE OVERLAYakSHORT SOLIDUS OVERLAYakLONG SOLIDUS OV",
  "ERLAYakRIGHT HALF RING BELOWakINVERTED BRIDGE BELOWakSQUARE BELOWalEAGULL BELOWakX ABOVEakVERT",
  "ICAL TILDEakDOUBLE OVERLINEakGRAVE TONE MARKakACUTE TONE MARKakGREEK PERISPOMENIaqKORONISaqDIA",
  "LYTIKA TONOSaqYPOGEGRAMMENIakBRIDGE ABOVEakEQUALS SIGN BELOWakDOUBLE VERTICAL LINE BELOWakLEFT",
  " ANGLE BELOWakNOT TILDE ABOVEakHOMOTHETIC ABOVEakALMOST EQUAL TO ABOVEakLEFT RIGHT ARROW BELOW",
  "akUPWARDS ARROW BELOWakGRAPHEME JOINERakRIGHT ARROWHEAD ABOVEakLEFT HALF RING ABOVEakFERMATAak",
  "X BELOWakLEFT ARROWHEAD BELOWakRIGHT ARROWHEAD BELOWbaAND UP ARROWHEAD BELOWaqHALF RING ABOVEa",
  "kDOT ABOVE RIGHTakASTERISK BELOWakDOUBLE RING BELOWakZIGZAG ABOVEakDOUBLE BREVE BELOWawarMACRO",
  "Nax BELOWarTILDEarINVERTED BREVEarRIGHTWARDS ARROW BELOWakLATIN SMALL LETTER AbdEbdIbdObdUbdCb",
  "dDbdHbdMbdRbdTbdVbdXaaGREEK CAPITAL LETTER HETAagSMALL LETTER HETAagCAPITAL LETTER ARCHAIC SAM",
  "PIagSMALL LETTER ARCHAIC SAMPIagNUMERAL SIGNagLOWER NUMERAL SIGNagCAPITAL LETTER PAMPHYLIAN DI",
  "GAMMAagSMALL LETTER PAMPHYLIAN DIGAMMA@0037AagYPOGEGRAMMENIagSMALL REVERSED LUNATE SIGMA SYMBO",
  "LamDOTTED LUNATE SIGMA SYMBOLamREVERSED DOTTED LUNATE SIGMA SYMBOLagQUESTION MARKagCAPITAL LET",
  "TER YOT@00384agTONOSagDIALYTIKA TONOSagCAPITAL LETTER ALPHA WITH TONOSagANO TELEIAagCAPITAL LE",
  "TTER EPSILON WITH TONOSawTA WITH TONOSavIOTA WITH TONOS@0038CavOMICRON WITH TONOS@0038EavUPSIL",
  "ON WITH TONOSavOMEGA WITH TONOSagSMALL LETTER IOTA WITH DIALYTIKA AND TONOSagCAPITAL LETTER AL",
  "PHAavBETAavGAMMAavDELTAavEPSILONavZETAavETAavTHETAavIOTAavKAPPAavLAMDAavMUavNUavXIavOMICRONavP",
  "IavRHO@003A3avSIGMAavTAUavUPSILONavPHIavCHIavPSIavOMEGAavIOTA WITH DIALYTIKAavUPSILON WITH DIA",
  "LYTIKAagSMALL LETTER ALPHA WITH TONOSatEPSILON WITH TONOSauTA WITH TONOSatIOTA WITH TONOSatUPS",
  "ILON WITH DIALYTIKA AND TONOSatALPHAatBETAatGAMMAatDELTAatEPSILONatZETAatETAatTHETAatIOTAatKAP",
  "PAatLAMDAatMUatNUatXIatOMICRONatPIatRHOatFINAL SIGMAatSIGMAatTAUatUPSILONatPHIatCHIatPSIatOMEG",
  "AatIOTA WITH DIALYTIKAatUPSILON WITH DIALYTIKAatOMICRON WITH TONOSatUPSILON WITH TONOSatOMEGA ",
  "WITH TONOSagCAPITAL KAI SYMBOLagBETA SYMBOLagTHETA SYMBOLagUPSILON WITH HOOK SYMBOLatACUTE AND",
  " HOOK SYMBOLatDIAERESIS AND HOOK SYMBOLagPHI SYMBOLahI SYMBOLagKAI SYMBOLagLETTER ARCHAIC KOPP",
  "AagSMALL LETTER ARCHAIC KOPPAagLETTER STIGMAagSMALL LETTER STIGMAagLETTER DIGAMMAagSMALL LETTE",
  "R DIGAMMAagLETTER KOPPAagSMALL LETTER KOPPAagLETTER SAMPIagSMALL LETTER SAMPIaaCOPTIC CAPITAL ",
  "LETTER SHEIahSMALL LETTER SHEIahCAPITAL LETTER FEIahSMALL LETTER FEIahCAPITAL LETTER KHEIahSMA",
  "LL LETTER KHEIahCAPITAL LETTER HORIahSMALL LETTER HORIahCAPITAL LETTER GANGIAahSMALL LETTER GA",
  "NGIAahCAPITAL LETTER SHIMAahSMALL LETTER SHIMAahCAPITAL LETTER DEIahSMALL LETTER DEIaaGREEK KA",
  "PPA SYMBOLagRHO SYMBOLagLUNATE SIGMA SYMBOLahETTER YOTagCAPITAL THETA SYMBOLagLUNATE EPSILON S",
  "YMBOLagREVERSED LUNATE EPSILON SYMBOLagCAPITAL LETTER SHOagSMALL LETTER SHOagCAPITAL LUNATE SI",
  "GMA SYMBOLapETTER SANagSMALL LETTER SANagRHO WITH STROKE SYMBOLagCAPITAL REVERSED LUNATE SIGMA",
  " SYMBOLaoDOTTED LUNATE SIGMA SYMBOLaoREVERSED DOTTED LUNATE SIGMA SYMBOLaaCYRILLIC CAPITAL LET",
  "TER IE WITH GRAVEazOayDJEayGJEayUKRAINIAN IEayDZEayBYELORUSSIAN-UKRAINIAN IayYIayJEayLJEayNJEa",
  "yTSHEayKJEayI WITH GRAVEaySHORT UayDZHEayAayBEayVEayGHEayDEayIEayZHEazEayIaySHORT IayKAayELazM",
  "azNayOayPEayERazSayTEayUayEFayHAayTSEayCHEaySHAbaCHAayHARD SIGNayYERUaySOFT SIGNayEayYUazAajSM",
  "ALL LETTER AawBEawVEawGHEawDEawIEawZHEaxEawIawSHORT IawKAawELaxMaxNawOawPEawERaxSawTEawUawEFaw",
  "HAawTSEawCHEawSHAayCHAawHARD SIGNawYERUawSOFT SIGNawEawYUaxAawIE WITH GRAVEaxOawDJEawGJEawUKRA",
  "INIAN IEawDZEawBYELORUSSIAN-UKRAINIAN IawYIawJEawLJEawNJEawTSHEawKJEawI WITH GRAVEawSHORT UawD",
  "ZHEajCAPITAL LETTER OMEGAajSMALL LETTER OMEGAajCAPITAL LETTER YATajSMALL LETTER YATajCAPITAL L",
  "ETTER IOTIFIED EajSMALL LETTER IOTIFIED EajCAPITAL LETTER LITTLE YUSajSMALL LETTER LITTLE YUSa",
  "jCAPITAL LETTER IOTIFIED LITTLE YUSajSMALL LETTER IOTIFIED LITTLE YUSajCAPITAL LETTER BIG YUSa",
  "jSMALL LETTER BIG YUSajCAPITAL LETTER IOTIFIED BIG YUSajSMALL LETTER IOTIFIED BIG YUSajCAPITAL",
  " LETTER KSIajSMALL LETTER KSIajCAPITAL LETTER PSIajSMALL LETTER PSIajCAPITAL LETTER FITAajSMAL",
  "L LETTER FITAajCAPITAL LETTER IZHITSAajSMALL LETTER IZHITSAajCAPITAL LETTER IZHITSA WITH DOUBL",
  "E GRAVE ACCENTajSMALL LETTER IZHITSA WITH DOUBLE GRAVE ACCENTajCAPITAL LETTER UKajSMALL LETTER",
  " UKajCAPITAL LETTER ROUND OMEGAajSMALL LETTER ROUND OMEGAajCAPITAL LETTER OMEGA WITH TITLOajSM",
  "ALL LETTER OMEGA WITH TITLOajCAPITAL LETTER OTajSMALL LETTER OTajCAPITAL LETTER KOPPAajSMALL L",
  "ETTER KOPPAajTHOUSANDS SIGNabOMBINING CYRILLIC TITLOatPALATALIZATIONatDASIA PNEUMATAatPSILI PN",
  "EUMATAauOKRYTIEatHUNDRED THOUSANDS SIGNatMILLIONS SIGNabYRILLIC CAPITAL LETTER SHORT I WITH TA",
  "ILajSMALL LETTER SHORT I WITH TAILajCAPITAL LETTER SEMISOFT SIGNajSMALL LETTER SEMISOFT SIGNaj",
  "CAPITAL LETTER ER WITH TICKajSMALL LETTER ER WITH TICKajCAPITAL LETTER GHE WITH UPTURNajSMALL ",
  "LETTER GHE WITH UPTURNajCAPITAL LETTER GHE WITH STROKEajSMALL LETTER GHE WITH STROKEajCAPITAL ",
  "LETTER GHE WITH MIDDLE HOOKajSMALL LETTER GHE WITH MIDDLE HOOKajCAPITAL LETTER ZHE WITH DESCEN",
  "DERajSMALL LETTER ZHE WITH DESCENDERajCAPITAL LETTER ZE WITH DESCENDERajSMALL LETTER ZE WITH D",
  "ESCENDERajCAPITAL LETTER KA WITH DESCENDERajSMALL LETTER KA WITH DESCENDERajCAPITAL LETTER KA ",
  "WITH VERTICAL STROKEajSMALL LETTER KA WITH VERTICAL STROKEajCAPITAL LETTER KA WITH STROKEajSMA",
  "LL LETTER KA WITH STROKEajCAPITAL LETTER BASHKIR KAajSMALL LETTER BASHKIR KAajCAPITAL LETTER E",
  "N WITH DESCENDERajSMALL LETTER EN WITH DESCENDERajCAPITAL LIGATURE EN GHEajSMALL LIGATURE EN G",
  "HEajCAPITAL LETTER PE WITH MIDDLE HOOKajSMALL LETTER PE WITH MIDDLE HOOKajCAPITAL LETTER ABKHA",
  "SIAN HAajSMALL LETTER ABKHASIAN HAajCAPITAL LETTER ES WITH DESCENDERajSMALL LETTER ES WITH DES",
  "CENDERajCAPITAL LETTER TE WITH DESCENDERajSMALL LETTER TE WITH DESCENDERajCAPITAL LETTER STRAI",
  "GHT UajSMALL LETTER STRAIGHT UajCAPITAL LETTER STRAIGHT U WITH STROKEajSMALL LETTER STRAIGHT U",
  " WITH STROKEajCAPITAL LETTER HA WITH DESCENDERajSMALL LETTER HA WITH DESCENDERajCAPITAL LIGATU",
  "RE TE TSEajSMALL LIGATURE TE TSEajCAPITAL LETTER CHE WITH DESCENDERajSMALL LETTER CHE WITH DES",
  "CENDERajCAPITAL LETTER CHE WITH VERTICAL STROKEajSMALL LETTER CHE WITH VERTICAL STROKEajCAPITA",
  "L LETTER SHHAajSMALL LETTER SHHAajCAPITAL LETTER ABKHASIAN CHEajSMALL LETTER ABKHASIAN CHEajCA",
  "PITAL LETTER ABKHASIAN CHE WITH DESCENDERajSMALL LETTER ABKHASIAN CHE WITH DESCENDERajLETTER P",
  "ALOCHKAajCAPITAL LETTER ZHE WITH BREVEajSMALL LETTER ZHE WITH BREVEajCAPITAL LETTER KA WITH HO",
  "OKajSMALL LETTER KA WITH HOOKajCAPITAL LETTER EL WITH TAILajSMALL LETTER EL WITH TAILajCAPITAL",
  " LETTER EN WITH HOOKajSMALL LETTER EN WITH HOOKajCAPITAL LETTER EN WITH TAILajSMALL LETTER EN ",
  "WITH TAILajCAPITAL LETTER KHAKASSIAN CHEajSMALL LETTER KHAKASSIAN CHEajCAPITAL LETTER EM WITH ",
  "TAILajSMALL LETTER EM WITH TAILawPALOCHKAajCAPITAL LETTER A WITH BREVEajSMALL LETTER A WITH BR",
  "EVEajCAPITAL LETTER A WITH DIAERESISajSMALL LETTER A WITH DIAERESISajCAPITAL LIGATURE A IEajSM",
  "ALL LIGATURE A IEajCAPITAL LETTER IE WITH BREVEajSMALL LETTER IE WITH BREVEajCAPITAL LETTER SC",
  "HWAajSMALL LETTER SCHWAajCAPITAL LETTER SCHWA WITH DIAERESISajSMALL LETTER SCHWA WITH DIAERESI",
  "SajCAPITAL LETTER ZHE WITH DIAERESISajSMALL LETTER ZHE WITH DIAERESISajCAPITAL LETTER ZE WITH ",
  "DIAERESISajSMALL LETTER ZE WITH DIAERESISajCAPITAL LETTER ABKHASIAN DZEajSMALL LETTER ABKHASIA",
  "N DZEajCAPITAL LETTER I WITH MACRONajSMALL LETTER I WITH MACRONajCAPITAL LETTER I WITH DIAERES",
  "ISajSMALL LETTER I WITH DIAERESISajCAPITAL LETTER O WITH DIAERESISajSMALL LETTER O WITH DIAERE",
  "SISajCAPITAL LETTER BARRED OajSMALL LETTER BARRED OajCAPITAL LETTER BARRED O WITH DIAERESISajS",
  "MALL LETTER BARRED O WITH DIAERESISajCAPITAL LETTER E WITH DIAERESISajSMALL LETTER E WITH DIAE",
  "RESISajCAPITAL LETTER U WITH MACRONajSMALL LETTER U WITH MACRONajCAPITAL LETTER U WITH DIAERES",
  "ISajSMALL LETTER U WITH DIAERESISajCAPITAL LETTER U WITH DOUBLE ACUTEajSMALL LETTER U WITH DOU",
  "BLE ACUTEajCAPITAL LETTER CHE WITH DIAERESISajSMALL LETTER CHE WITH DIAERESISajCAPITAL LETTER ",
  "GHE WITH DESCENDERajSMALL LETTER GHE WITH DESCENDERajCAPITAL LETTER YERU WITH DIAERESISajSMALL",
  " LETTER YERU WITH DIAERESISajCAPITAL LETTER GHE WITH STROKE AND HOOKajSMALL LETTER GHE WITH ST",
  "ROKE AND HOOKajCAPITAL LETTER HA WITH HOOKajSMALL LETTER HA WITH HOOKajCAPITAL LETTER HA WITH ",
  "STROKEajSMALL LETTER HA WITH STROKEajCAPITAL LETTER KOMI DEajSMALL LETTER KOMI DEajCAPITAL LET",
  "TER KOMI DJEajSMALL LETTER KOMI DJEajCAPITAL LETTER KOMI ZJEajSMALL LETTER KOMI ZJEajCAPITAL L",
  "ETTER KOMI DZJEajSMALL LETTER KOMI DZJEajCAPITAL LETTER KOMI LJEajSMALL LETTER KOMI LJEajCAPIT",
  "AL LETTER KOMI NJEajSMALL LETTER KOMI NJEajCAPITAL LETTER KOMI SJEajSMALL LETTER KOMI SJEajCAP",
  "ITAL LETTER KOMI TJEajSMALL LETTER KOMI TJEajCAPITAL LETTER REVERSED ZEajSMALL LETTER REVERSED",
  " ZEajCAPITAL LETTER EL WITH HOOKajSMALL LETTER EL WITH HOOKajCAPITAL LETTER LHAajSMALL LETTER ",
  "LHAajCAPITAL LETTER RHAajSMALL LETTER RHAajCAPITAL LETTER YAEajSMALL LETTER YAEajCAPITAL LETTE",
  "R QAajSMALL LETTER QAajCAPITAL LETTER WEajSMALL LETTER WEajCAPITAL LETTER ALEUT KAajSMALL LETT",
  "ER ALEUT KAajCAPITAL LETTER EL WITH MIDDLE HOOKajSMALL LETTER EL WITH MIDDLE HOOKajCAPITAL LET",
  "TER EN WITH MIDDLE HOOKajSMALL LETTER EN WITH MIDDLE HOOKajCAPITAL LETTER PE WITH DESCENDERajS",
  "MALL LETTER PE WITH DESCENDERajCAPITAL LETTER SHHA WITH DESCENDERajSMALL LETTER SHHA WITH DESC",
  "ENDERajCAPITAL LETTER EN WITH LEFT HOOKajSMALL LETTER EN WITH LEFT HOOKajCAPITAL LETTER DZZHEa",
  "jSMALL LETTER DZZHEajCAPITAL LETTER DCHEajSMALL LETTER DCHEajCAPITAL LETTER EL WITH DESCENDERa",
  "jSMALL LETTER EL WITH DESCENDER@00531aaARMENIAN CAPITAL LETTER AYBayBENayGIMayDAayECHayZAayEHa",
  "zTayTOayZHEayINIayLIWNayXEHayCAayKENayHOayJAayGHADayCHEHayMENayYIayNOWaySHAayVOayCHAayPEHayJHE",
  "HayRAaySEHayVEWayTIWNayREHayCOayYIWNayPIWRayKEHayOHayFEH@00559ajMODIFIER LETTER LEFT HALF RING",
  "ajAPOSTROPHEajEMPHASIS MARKakXCLAMATION MARKajCOMMAajQUESTION MARKajABBREVIATION MARKajSMALL L",
  "ETTER TURNED AYBawAYBawBENawGIMawDAawECHawZAawEHaxTawTOawZHEawINIawLIWNawXEHawCAawKENawHOawJAa",
  "wGHADawCHEHawMENawYIawNOWawSHAawVOawCHAawPEHawJHEHawRAawSEHawVEWawTIWNawREHawCOawYIWNawPIWRawK",
  "EHawOHawFEHaqIGATURE ECH YIWNaqETTER YI WITH STROKEajFULL STOPajHYPHEN@0058DaaRIGHT-FACING ARM",
  "ENIAN ETERNITY SIGNaaLEFT-FACING ARMENIAN ETERNITY SIGNaaARMENIAN DRAM SIGN@00591aaHEBREW ACCE",
  "NT ETNAHTAaoSEGOLapHALSHELETaoZAQEF QATANauGADOLaoTIPEHAaoREVIAaoZARQAaoPASHTAaoYETIVaoTEVIRao",
  "GERESHau MUQDAMarSHAYIMaoQARNEY PARAaoTELISHA GEDOLAaoPAZERaoATNAH HAFUKHaoMUNAHapAHAPAKHapERK",
  "HAau KEFULAaoDARGAaoQADMAaoTELISHA QETANAaoYERAH BEN YOMOaoOLEaoILUYaoDEHIaoZINORahMARK MASORA",
  " CIRCLEahPOINT SHEVAanHATAF SEGOLatPATAHatQAMATSaoIRIQanTSEREanSEGOLanPATAHanQAMATSanHOLAMas H",
  "ASER FOR VAVanQUBUTSanDAGESH OR MAPIQanMETEGaiUNCTUATION MAQAFaiOINT RAFEaiUNCTUATION PASEQaiO",
  "INT SHIN DOTaoIN DOTaiUNCTUATION SOF PASUQahMARK UPPER DOTamLOWER DOTahPUNCTUATION NUN HAFUKHA",
  "aiOINT QAMATS QATAN@005D0ahLETTER ALEFaoBETaoGIMELaoDALETaoHEaoVAVaoZAYINaoHETaoTETaoYODaoFINA",
  "L KAFaoKAFaoLAMEDaoFINAL MEMaoMEMaoFINAL NUNaoNUNaoSAMEKHaoAYINaoFINAL PEaoPEaoFINAL TSADIaoTS",
  "ADIaoQOFaoRESHaoSHINaoTAV@005EFahYOD TRIANGLEahLIGATURE YIDDISH DOUBLE VAVayVAV YODayDOUBLE YO",
  "DahPUNCTUATION GERESHawSHAYIM@00600aaARABIC NUMBER SIGNahSIGN SANAHahFOOTNOTE MARKERahSIGN SAF",
  "HAaoMVATahNUMBER MARK ABOVEag-INDIC CUBE ROOTanFOURTH ROOTag RAYag-INDIC PER MILLE SIGNarTEN T",
  "HOUSAND SIGNabFGHANI SIGNabRABIC COMMAahDATE SEPARATORahPOETIC VERSE SIGNahSIGN MISRAamSALLALL",
  "AHOU ALAYHE WASSALLAMamALAYHE ASSALLAMamRAHMATULLAH ALAYHEaoDI ALLAHOU ANHUamTAKHALLUSaiMALL H",
  "IGH TAHasLIGATURE ALEF WITH LAM WITH YEHasZAINanFATHAanDAMMAanKASRAaiEMICOLONahLETTER MARKahEN",
  "D OF TEXT MARKahTRIPLE DOT PUNCTUATION MARKahQUESTION MARKahLETTER KASHMIRI YEHaoHAMZAaoALEF W",
  "ITH MADDA ABOVEayHAMZA ABOVEaoWAW WITH HAMZA ABOVEaoALEF WITH HAMZA BELOWaoYEH WITH HAMZA ABOV",
  "EaoALEFaoBEHaoTEH MARBUTAarapHEHaoJEEMaoHAHaoKHAHaoDALaoTHALaoREHaoZAINaoSEENapHEENapADaoDADao",
  "TAHaoZAHaoAINaoGHAINaoKEHEH WITH TWO DOTS ABOVEbaHREE DOTS BELOWaoFARSI YEH WITH INVERTED VbdT",
  "WO DOTS ABOVEbeHREE DOTS ABOVEahTATWEELahLETTER FEHaoQAFaoKAFaoLAMaoMEEMaoNOONaoHEHaoWAWaoALEF",
  " MAKSURAaoYEHahFATHATANahDAMMATANahKASRATANahFATHAahDAMMAahKASRAahSHADDAaiUKUNahMADDAH ABOVEah",
  "HAMZA ABOVEanBELOWahSUBSCRIPT ALEFahINVERTED DAMMAahMARK NOON GHUNNAahZWARAKAYahVOWEL SIGN SMA",
  "LL V ABOVEasINVERTED SMALL V ABOVEasDOT BELOWahREVERSED DAMMAahFATHA WITH TWO DOTSahWAVY HAMZA",
  " BELOWag-INDIC DIGIT ZEROatONEatTWOauHREEatFOURauIVEatSIXauEVENatEIGHTatNINEag PERCENT SIGNahD",
  "ECIMAL SEPARATORahTHOUSANDS SEPARATORahFIVE POINTED STARahLETTER DOTLESS BEHawQAFaoSUPERSCRIPT",
  " ALEFaoALEF WASLAauITH WAVY HAMZA ABOVEbjBELOWaoHIGH HAMZAay ALEFazWAWaoU WITH HAMZA ABOVEaoHI",
  "GH HAMZA YEHaoTTEHasEHaoBEEHaoTEH WITH RINGaxTHREE DOTS ABOVE DOWNWARDSaoPEHaoTEHEHaoBEHEHaoHA",
  "H WITH HAMZA ABOVEaxTWO DOTS VERTICAL ABOVEaoNYEHaoDYEHaoHAH WITH THREE DOTS ABOVEaoTCHEHatEHa",
  "oDDALapAL WITH RINGaxDOT BELOWbg AND SMALL TAHaqHALapDAHALapULapAL WITH THREE DOTS ABOVE DOWNW",
  "ARDSaxFOUR DOTS ABOVEaoRREHapEH WITH SMALL VaxRINGaxDOT BELOWaxSMALL V BELOWaxDOT BELOW AND DO",
  "T ABOVEaxTWO DOTS ABOVEaoJEHaoREH WITH FOUR DOTS ABOVEaoSEEN WITH DOT BELOW AND DOT ABOVEayTHR",
  "EE DOTS BELOWbo AND THREE DOTS ABOVEapAD WITH TWO DOTS BELOWayHREE DOTS ABOVEaoTAH WITH THREE ",
  "DOTS ABOVEaoAIN WITH THREE DOTS ABOVEaoDOTLESS FEHaoFEH WITH DOT MOVED BELOWbbBELOWaoVEHaoFEH ",
  "WITH THREE DOTS BELOWaoPEHEHaoQAF WITH DOT ABOVEaxTHREE DOTS ABOVEaoKEHEHaoSWASH KAFaoKAF WITH",
  " RINGaxDOT ABOVEaoNGaoKAF WITH THREE DOTS BELOWaoGAFar WITH RINGaoNGOEHaoGAF WITH TWO DOTS BEL",
  "OWapUEHapAF WITH THREE DOTS ABOVEaoLAM WITH SMALL VaxDOT ABOVEaxTHREE DOTS ABOVEbiBELOWaoNOON ",
  "WITH DOT BELOWatGHUNNAaoRNOONaoNOON WITH RINGayTHREE DOTS ABOVEaoHEH DOACHASHMEEaoTCHEH WITH D",
  "OT ABOVEaoHEH WITH YEH ABOVEasGOALaw WITH HAMZA ABOVEaoTEH MARBUTA GOALaoWAW WITH RINGaoKIRGHI",
  "Z OEaoOEaoUaoYUaoKIRGHIZ YUaoWAW WITH TWO DOTS ABOVEaoVEaoFARSI YEHaoYEH WITH TAILaxSMALL VaoW",
  "AW WITH DOT ABOVEaoEaoYEH WITH THREE DOTS BELOWasBARREEay WITH HAMZA ABOVEahFULL STOPahLETTER ",
  "AEahSMALL HIGH LIGATURE SAD WITH LAM WITH ALEF MAKSURAbbQAF WITH LAM WITH ALEF MAKSURAasMEEM I",
  "NITIAL FORMasLAM ALEFasJEEMasTHREE DOTSasSEENahEND OF AYAHahSTART OF RUB EL HIZBaiMALL HIGH RO",
  "UNDED ZEROasUPRIGHT RECTANGULAR ZEROasDOTLESS HEAD OF KHAHasMEEM ISOLATED FORManLOW SEENanHIGH",
  " MADDAanWAWanYEHanHIGH YEHasNOONahPLACE OF SAJDAHahEMPTY CENTRE LOW STOPauHIGH STOPahROUNDED H",
  "IGH STOP WITH FILLED CENTREahSMALL LOW MEEMahLETTER DAL WITH INVERTED VaoREH WITH INVERTED Vaa",
  "EXTENDED ARABIC-INDIC DIGIT ZERObcONEbcTWObdHREEbcFOURbdIVEbcSIXbdEVENbcEIGHTbcNINEaaARABIC LE",
  "TTER SHEEN WITH DOT BELOWaoDAD WITH DOT BELOWaoGHAIN WITH DOT BELOWahSIGN SINDHI AMPERSANDatPO",
  "STPOSITION MENahLETTER HEH WITH INVERTED VaaSYRIAC END OF PARAGRAPHahSUPRALINEAR FULL STOPajBL",
  "INEAR FULL STOPajPRALINEAR COLONajBLINEAR COLONahHORIZONTAL COLONahCOLON SKEWED LEFTauRIGHTahS",
  "UPRALINEAR COLON SKEWED LEFTajBLINEAR COLON SKEWED RIGHTahCONTRACTIONahHARKLEAN OBELUSaqMETOBE",
  "LUSaqASTERISCUS@0070FahABBREVIATION MARKahLETTER ALAPHaoSUPERSCRIPT ALAPHaoBETHaoGAMALat GARSH",
  "UNIaoDALATHapOTLESS DALATH RISHaoHEaoWAWaoZAINaoHETHaoTETHas GARSHUNIaoYUDHas HEaoKAPHaoLAMADH",
  "aoMIMaoNUNaoSEMKATHaoFINAL SEMKATHaoEaoPEaoREVERSED PEaoSADHEaoQAPHaoRISHaoSHINaoTAWaoPERSIAN ",
  "BHETHawGHAMALawDHALATHahPTHAHA ABOVEaoBELOWaoDOTTEDahZQAPHA ABOVEaoBELOWaoDOTTEDahRBASA ABOVEa",
  "nBELOWahDOTTED ZLAMA HORIZONTALauANGULARahHBASA ABOVEanBELOWam-ESASA DOTTEDahESASA ABOVEanBELO",
  "WahRWAHAahFEMININE DOTahQUSHSHAYAahRUKKAKHAahTWO VERTICAL DOTS ABOVEazBELOWaiHREE DOTS ABOVEas",
  "BELOWahOBLIQUE LINE ABOVEauBELOWahMUSICahBARREKH@0074DahLETTER SOGDIAN ZHAINawKHAPHawFEaaARABI",
  "C LETTER BEH WITH THREE DOTS HORIZONTALLY BELOWaxDOT BELOW AND THREE DOTS ABOVEaxTHREE DOTS PO",
  "INTING UPWARDS BELOWce AND TWO DOTS ABOVEayWO DOTS BELOW AND DOT ABOVEaxINVERTED SMALL V BELOW",
  "axSMALL VaoHAH WITH TWO DOTS ABOVEayHREE DOTS POINTING UPWARDS BELOWaoDAL WITH TWO DOTS VERTIC",
  "ALLY BELOW AND SMALL TAHaxINVERTED SMALL V BELOWaoREH WITH STROKEaoSEEN WITH FOUR DOTS ABOVEao",
  "AIN WITH TWO DOTS ABOVEayHREE DOTS POINTING DOWNWARDS ABOVEayWO DOTS VERTICALLY ABOVEaoFEH WIT",
  "H TWO DOTS BELOWayHREE DOTS POINTING UPWARDS BELOWaoKEHEH WITH DOT ABOVEazTHREE DOTS ABOVEbkPO",
  "INTING UPWARDS BELOWaoMEEM WITH DOT ABOVEbcBELOWaoNOON WITH TWO DOTS BELOWaySMALL TAHbeVaoLAM ",
  "WITH BARaoREH WITH TWO DOTS VERTICALLY ABOVEaxHAMZA ABOVEaoSEEN WITH TWO DOTS VERTICALLY ABOVE",
  "aoHAH WITH SMALL ARABIC LETTER TAH BELOWbvAND TWO DOTSaoSEEN WITH SMALL ARABIC LETTER TAH AND ",
  "TWO DOTSaoREH WITH SMALL ARABIC LETTER TAH AND TWO DOTSaoHAH WITH SMALL ARABIC LETTER TAH ABOV",
  "EaoALEF WITH EXTENDED ARABIC-INDIC DIGIT TWO ABOVEcbHREE ABOVEaoFARSI YEH WITH EXTENDED ARABIC",
  "-INDIC DIGIT TWO ABOVEcgHREE ABOVEcfFOUR BELOWaoWAW WITH EXTENDED ARABIC-INDIC DIGIT TWO ABOVE",
  "caHREE ABOVEaoYEH BARREE WITH EXTENDED ARABIC-INDIC DIGIT TWO ABOVEchHREE ABOVEaoHAH WITH EXTE",
  "NDED ARABIC-INDIC DIGIT FOUR BELOWaoSEEN WITH EXTENDED ARABIC-INDIC DIGIT FOUR ABOVEayINVERTED",
  " VaoKAF WITH TWO DOTS ABOVEaaTHAANA LETTER HAAaoSHAVIYANIaoNOONUaoRAAaoBAAaoLHAVIYANIaoKAAFUao",
  "ALIFUaoVAAVUaoMEEMUaoFAAFUaoDHAALUaoTHAAaoLAAMUaoGAAFUapNAVIYANIaoSEENUaoDAVIYANIaoZAVIYANIaoT",
  "AVIYANIaoYAAaoPAVIYANIaoJAVIYANIaoCHAVIYANIaoTTAAaoHHAAaoKHAAaoTHAALUaoZAAaoSHEENUapAADHUaoDAA",
  "DHUaoTOaoZOaoAINUaoGHAINUaoQAAFUaoWAAVUahABAFILIaiABAAFILIahIBIFILIahEEBEEFILIahUBUFILIahOOBOO",
  "FILIahEBEFILIaiYBEYFILIahOBOFILIaiABOAFILIahSUKUNahLETTER NAA@007C0aaNKO DIGIT ZEROakONEakTWOa",
  "lHREEakFOURalIVEakSIXalEVENakEIGHTakNINEaeLETTER AalEEalIalEalUalOOamalDAGBASINNAalNalBAalPAal",
  "TAalJAalCHAalDAalRAamRAalSAalGBAalFAalKAalLAalNA WOLOSOalMAalNYAamAalHAalWAalYAalNYA WOLOSOalJ",
  "ONA JAaqCHAaqRAaeCOMBINING SHORT HIGH TONEauLOW TONEauRISING TONEaoLONG DESCENDING TONEatHIGH ",
  "TONEatLOW TONEatRISING TONEaoNASALIZATION MARKaoDOUBLE DOT ABOVEaeHIGH TONE APOSTROPHEaeLOW TO",
  "NE APOSTROPHEaeSYMBOL OO DENNENalGBAKURUNENaeCOMMAaeEXCLAMATION MARKaeLAJANYALAN@007FDaeDANTAY",
  "ALANafOROME SIGNaeTAMAN SIGNaaSAMARITAN LETTER ALAFarBITarGAMANarDALATarIYarBAAarZENarITarTITa",
  "rYUTarKAAFarLABATarMIMarNUNarSINGAATarINarFIarTSAADIYarQUFarRISHarSHANarTAAFakMARK INar-ALAFap",
  "OCCLUSIONapDAGESHalODIFIER LETTER EPENTHETIC YUTalARK EPENTHETIC YUTakVOWEL SIGN LONG EavEavOV",
  "ERLONG AAavLONG AAavAAavOVERLONG AavLONG AavAakMODIFIER LETTER SHORT AakVOWEL SIGN SHORT AavLO",
  "NG UavUakMODIFIER LETTER IakVOWEL SIGN LONG IavIavOavSUKUNakMARK NEQUDAA@00830akPUNCTUATION NE",
  "QUDAAawAFSAAQaxNGEDawBAUawATMAAUawSHIYYAALAAakABBREVIATION MARKakPUNCTUATION MELODIC QITSAawZI",
  "QAAawQITSAawZAEFawTURUawARKAANUawSOF MASHFAATawANNAAU@00840aaMANDAIC LETTER HALQAapABaqGaqDaqH",
  "apUSHENNAapAZapITapATTaqKSAaraqLaqMaqNaqSapINapAPaqSZaqQaqRaqSHaqTapDUSHENNAapKADapAINaiAFFRIC",
  "ATION MARKaiVOCALIZATION MARKaiGEMINATION MARK@0085EaiPUNCTUATION@00860aaSYRIAC LETTER MALAYAL",
  "AM NGAayJAayNYAayTTAayNNAbaNAayBHAayRAayLLAbaLAaySSA@00870aaARABIC LETTER ALEF WITH ATTACHED F",
  "ATHAbhTOP RIGHT FATHAayRIGHT MIDDLE STROKEayLEFT MIDDLE STROKEayATTACHED KASRAbhBOTTOM RIGHT K",
  "ASRAbhROUND DOT ABOVEbiIGHT ROUND DOTbhLEFT ROUND DOTbhROUND DOT BELOWayDOT ABOVEayATTACHED TO",
  "P RIGHT FATHA AND DOT ABOVEayRIGHT MIDDLE STROKE AND DOT ABOVEayATTACHED BOTTOM RIGHT KASRA AN",
  "D DOT ABOVEbhTOP RIGHT FATHA AND LEFT RINGayRIGHT MIDDLE STROKE AND LEFT RINGayATTACHED BOTTOM",
  " RIGHT KASRA AND LEFT RINGbhRIGHT HAMZAbhLEFT HAMZAahTATWEEL WITH OVERSTRUCK HAMZAbfWAWauTWO D",
  "OTS BELOWahLETTER THIN YEHahBASELINE ROUND DOTahRAISED ROUND DOTahLETTER NOON WITH INVERTED SM",
  "ALL VaoHAH WITH INVERTED SMALL V BELOWaoTAH WITH DOT BELOWaxTHREE DOTS BELOWaoKEHEH WITH TWO D",
  "OTS VERTICALLY BELOWahVERTICAL TAIL@00890ahPOUND MARK ABOVEaiIASTRE MARK ABOVE@00898ahSMALL HI",
  "GH WORD AL-JUZanLOW WORD ISHMAAMaxMAALAawTASHEELahMADDA WAAJIBahSUPERSCRIPT ALEF MOKHASSASahDO",
  "UBLED MADDAahHALF MADDA OVER MADDAahLETTER BEH WITH SMALL V BELOWaxHAMZA ABOVEaoJEEM WITH TWO ",
  "DOTS ABOVEaoTAH WITH TWO DOTS ABOVEaoFEH WITH DOT BELOW AND THREE DOTS ABOVEaoQAF WITH DOT BEL",
  "OWaoLAM WITH DOUBLE BARaoMEEM WITH THREE DOTS ABOVEaoYEH WITH TWO DOTS BELOW AND HAMZA ABOVEbq",
  "DOT ABOVEaoREH WITH LOOPaoWAW WITH DOT WITHINaoROHINGYA YEHaoLOW ALEFaoDAL WITH THREE DOTS BEL",
  "OWaoSAD WITH THREE DOTS BELOWaoGAF WITH INVERTED STROKEaoSTRAIGHT WAWaoZAIN WITH INVERTED V AB",
  "OVEaoAIN WITH THREE DOTS BELOWaoKAF WITH DOT BELOWaoQAF WITH DOT BELOW AND NO DOTS ABOVEaoBEH ",
  "WITH SMALL MEEM ABOVEaoPEH WITH SMALL MEEM ABOVEaoTEH WITH SMALL TEH ABOVEaoREH WITH SMALL NOO",
  "N ABOVEaoYEH WITH TWO DOTS BELOW AND SMALL NOON ABOVEaoAFRICAN FEHawQAFawNOONaoPEH WITH SMALL ",
  "VaoTEH WITH SMALL VapTEH WITH SMALL VapCHEH WITH SMALL VaoKEHEH WITH SMALL VaoGHAIN WITH THREE",
  " DOTS ABOVEaoAFRICAN QAF WITH THREE DOTS ABOVEaoJEEM WITH THREE DOTS ABOVEbjBELOWaoLAM WITH SM",
  "ALL ARABIC LETTER TAH ABOVEaoGRAFahSMALL FARSI YEHanHIGH FARSI YEHasYEH BARREE WITH TWO DOTS B",
  "ELOWasWORD SAHasZAHahLARGE ROUND DOT ABOVEaxBELOWahSUKUN BELOWahLARGE CIRCLE BELOWanROUND DOT ",
  "INSIDE CIRCLE BELOWahSMALL LOW WAWanHIGH WORD AR-RUBasSADasAINasQAFasNOON WITH KASRAanLOW NOON",
  " WITH KASRAanHIGH WORD ATH-THALATHAayS-SAJDAayN-NISFaxSAKTAaxQIFaxWAQFAasFOOTNOTE MARKERasSIGN",
  " SAFHAahDISPUTED END OF AYAHahTURNED DAMMA BELOWahCURLY FATHAanDAMMAanKASRAanFATHATANanDAMMATA",
  "NanKASRATANahTONE ONE DOT ABOVEamTWO DOTS ABOVEamLOOP ABOVEamONE DOT BELOWamTWO DOTS BELOWamLO",
  "OP BELOWahOPEN FATHATANamDAMMATANamKASRATANahSMALL HIGH WAWahFATHA WITH RINGasDOT ABOVEahKASRA",
  " WITH DOT BELOWahLEFT ARROWHEAD ABOVEahRIGHT ARROWHEAD ABOVEahLEFT ARROWHEAD BELOWahRIGHT ARRO",
  "WHEAD BELOWahDOUBLE RIGHT ARROWHEAD ABOVEbj WITH DOTahRIGHT ARROWHEAD ABOVE WITH DOTahDAMMA WI",
  "TH DOTahMARK SIDEWAYS NOON GHUNNA"]

end EntityGen.Text.CharName
