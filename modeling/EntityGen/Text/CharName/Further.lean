/-! Names of characters: further scripts and forms of compatibility. -/

namespace EntityGen.Text.CharName

/-- Names by code point, in the form that `CharName.find?` reads. -/
def furtherNames : List String := [
  "@0A000aaYI SYLLABLE ITanXananPanETaoXaoaoPamATanXananPamUOXaoaoPamOTanXananPamEXanamWUamBITaoX",
  "aoaoPaoETapXapapPanATaoXaoaoPanUOXapapPanOTaoXaoaoPanEXaoaoPanUTaoXaoaoPaoRXapanYTaoXaoaoPaoRX",
  "apamPITaoXaoaoPaoEXapapPanATaoXaoaoPanUOXapapPanOTaoXaoaoPanUTaoXaoaoPaoRXapanYTaoXaoaoPaoRXap",
  "amBBITapXapapPapETaqXaqaqPaoATapXapapPaoUOXaqaqPaoOTapXapapPaoEXapapPaoUTapXapapPapRXaqaoYTapX",
  "apapPamNBITapXapapPapEXaqaqPaoATapXapapPaoOTapXapapPaoUTapXapapPapRXaqaoYTapXapapPapRXaqamHMIT",
  "apXapapPapEXaqaqPaoATapXapapPaoUOXaqaqPaoOTapXapapPaoUTapXapapPapRXaqaoYXapapPapRXaqamMITaoXao",
  "aoPaoEXapapPanATaoXaoaoPanUOTapXapapPanOTaoXaoaoPanEXaoanUTaoXaoaoPaoRXapanYTaoXaoaoPamFITaoXa",
  "oaoPanATaoXaoaoPanOXaoaoPanUTaoXaoaoPaoRXapanYTaoXaoaoPamVITaoXaoaoPaoETapXapapPanATaoXaoaoPan",
  "OTaoXaoaoPanEXaoPanUTaoXaoaoPaoRXapanYTaoXaoaoPaoRXapamDITaoXaoaoPaoEXapapPanATaoXaoaoPanUOXap",
  "anOTaoXaoaoPanEXaoaoPanUTaoXaoaoPaoRXapamTITaoXaoaoPaoEXapapPanATaoXaoaoPanUOTapXapapPanOTaoXa",
  "oaoPanEXaoaoPanUTaoXaoaoPaoRXapamDDITapXapapPapEXaqaqPaoATapXapapPaoUOXaqaqPaoOTapXapapPaoEXap",
  "apPaoUTapXapapPapRXaqamNDITapXapapPapEXaqaoATapXapapPaoOTapXapapPaoEXapapPaoUTapXapapPapRXaqam",
  "HNITapXapapPapETaqXaqaqPaoATapXapapPaoUOXaqaoOTapXapPaoEXapapPaoUTamNITaoXaoaoPaoEXapapPanAXao",
  "aoPanUOXapapPanOTaoXaoaoPanEXaoaoPanUTaoXaoaoPaoRXapamHLITapXapapPapEXaqaqPaoATapXapapPaoUOXaq",
  "aqPaoOXapapPaoEXapapPaoUTapXapapPapRXaqaoYTapXapapPapRXaqamLITaoXaoaoPaoETapXapapPanATaoXaoaoP",
  "anUOTapXapapPanOTaoXaoaoPanEXaoaoPanUTaoXaoaoPaoRXapanYTaoXaoaoPaoRXapamGITaoXaoaoPaoETapXapap",
  "PanATaoXaoaoPanUOTapXapapPanOTaoXaoaoPanETaoXaoaoPanUTaoXaoaoPaoRXapamKITaoXaoaoPaoEXapapPanAT",
  "aoXaoaoPanUOXapapPanOTaoXaoaoPanETaoXaoaoPanUTaoXaoaoPaoRXapamGGITapXapapEXaqaqPaoATapXapapPao",
  "UOTaqXaqaqPaoOTapXapapPaoETapXapapPaoUTapXapapPapRXaqamMGIEXaqaoATapXapapPaoUOXaqaqPaoOTapXapa",
  "pPaoEXapapPaoUTapXapapPapRXaqamHXITapXapapPapETaqXaqaqPaoATapXapapPaoUOTaqXaqaqPaoOTapXapapPao",
  "EXapapPamNGIEXaqaqPaoATapXapapPaoUOTaqXaqaoOTapXapapPaoEXapapPamHITaoEXapanATaoXaoaoPanUOTapXa",
  "papPanOTaoXaoaoPanEXaoaoPamWATaoXaoaoPanUOXapapPanOXaoaoPanEXaoaoPamZITaoXaoaoPaoEXapapPanATao",
  "XaoaoPanUOXapapPanOTaoXaoaoPanEXaoaoPanUTaoXaoaoPaoRXapanYTaoXaoaoPaoRXapamCITaoXaoaoPaoETapXa",
  "papPanATaoXaoaoPanUOXapapPanOTaoXaoaoPanEXaoaoPanUTaoXaoaoPaoRXapanYTaoXaoaoPaoRXapamZZITapXap",
  "apPapETaqXaqaqPaoATapXapapPaoOXapapPaoEXapapPaoUXapapPapRXaqaoYTapXapapPapRXaqamNZITapXapapPap",
  "EXaqaqPaoATapXapapPaoUOXaqaoOXapPaoEXapaoUXapapPapRXaqaoYTapXapapPapRXaqamSITaoXaoaoPaoEXapapP",
  "anATaoXaoaoPanUOXapapPanOTaoXaoaoPanEXaoaoPanUTaoXaoaoPaoRXapanYTaoXaoaoPaoRXapanSITapXapapPap",
  "EXaqaqPaoATapXapapPaoOTapXapapPaoEXapapPaoUTapXapapPaoYTapXapapPapRXaqamZHATapXapapPaoUOXaqaqP",
  "aoOTapXapapPaoETapXapapPaoUTapXapapPapRXaqaoYTapXapapPapRXaqamCHATapXapapPaoUOTaqXaqaqPaoOTapX",
  "apapPaoETapXapapPaoUXapapPapRXaqaoYTapXapapPapRXaqamRRAXapaoUOXaqaoOTapXapapPaoETapXapapPaoUTa",
  "pXapapPapRXaqaoYTapXapapPapRXaqamNRATapXapapPaoOXapapPaoETapXapapPaoUTapXapapPapRXaqaoYTapXapa",
  "pPapRXaqamSHATapXapapPaoUOXaqaqPaoOTapXapapPaoETapXapapPaoUTapXapapPapRXaqaoYTapXapapPapRXaqam",
  "RATaoXaoaoPanUOXapapPanOTaoXaoaoPanEXaoaoPanUTaoXaoaoPaoRXapanYTaoXaoaoPaoRXapamJITaoXaoaoPaoE",
  "TapXapapPanUOTapXapapPanOTaoXaoaoPanUTaoXaoaoPaoRXapanYTaoXaoaoPaoRXapamQITaoXaoaoPaoETapXapap",
  "PanUOTapXapapPanOTaoXaoaoPanUTaoXaoaoPaoRXapanYTaoXaoaoPaoRXapamJJITapXapapPapETaqXaqaqPaoUOXa",
  "qaqPaoOTapXapapPaoUTapXapapPapRXaqaoYTapXapapPamNJITapXapapPapETaqXaqaqPaoUOXaqaoOTapXapapPaoU",
  "XapapPapRXaqaoYTapXapapPapRXaqanYITapXapapPapETaqXaqaqPaoUOXaqaqPaoOTapXapapPaoUTapXapapPamXIT",
  "aoXaoaoPaoETapXapapPanUOXapanOTaoXaoaoPanYTaoXaoaoPaoRXapamYITaoXaoaoPaoETapXapapPanUOTapXapap",
  "PanOTaoXaoaoPanUTaoXaoaoPaoRXapanYTaoXaoaoPaoRXap@0A490adRADICAL QOTalLIalKITalNYIPalCYPalSSIa",
  "lGGOPamEPalMIalHXITalLYRalBBUTalMOPalYOalPUTalHXUOalTATalGAalZUPalCYTalDDURalBURalGGUOalNYOPal",
  "TUalOPalJJUTalZOTalPYTalHMOalYITalVURalSHYalVEPalZAalJOalNZUPalJJYalGOTalJJIEalWOalDUalSHURalL",
  "IEalCYamUOPamIPalHXOPalSHATalZURalSHOPalCHEalZZIETalNBIEalKE@0A4D0aaLISU LETTER BAamPAanHAamDA",
  "amTAanHAamGAamKAanHAamJAamCAanHAamDZAamTSAaoHAamMAamNAamLAamSAamZHAanAamNGAamHAamXAamHHAamFAam",
  "WAamSHAamYAamGHAamAanEamEanUamIamOamUanEanHamOEamTONE MYA TIarNA POarMYA CYAavBOavNAavJEUafPUN",
  "CTUATION COMMAarFULL STOPaaVAI SYLLABLE EEapNanHEEanWEEaqNanPEEanBHEEaoEEanMBEEanKPEEanMGBEEan",
  "GBEEanFEEanVEEanTEEaoHEEanDHEEapHEEanLEEanREEanDEEanNDEEanSEEaoHEEanZEEaoHEEanCEEanJEEanNJEEan",
  "YEEanKEEanNGGEEanGEEanMEEanNEEaoYEEanIaoNanHIapNanWIapNanPIanBHIaoIanMBIanKPIanMGBIanGBIanFIan",
  "VIanTIaoHIanDHIapHIanLIanRIanDIanNDIanSIaoHIanZIaoHIanCIanJIanNJIanYIanKIanNGGIanGIanMIanNIaoY",
  "IanAaoNanNGANanHAapNanWAapNanPAanBHAaoAanMBAanKPAaqNanMGBAanGBAanFAanVAanTAaoHAanDHAapHAanLAan",
  "RAanDAanNDAanSAaoHAanZAaoHAanCAanJAanNJAanYAanKAapNanNGGAanGAanMAanNAaoYAanOOapNanHOOanWOOaqNa",
  "nPOOanBHOOaoOOanMBOOanKPOOanMGBOOanGBOOanFOOanVOOanTOOaoHOOanDHOOapHOOanLOOanROOanDOOanNDOOanS",
  "OOaoHOOanZOOaoHOOanCOOanJOOanNJOOanYOOanKOOanNGGOOanGOOanMOOanNOOaoYOOanUaoNanHUapNanWUapNanPU",
  "anBHUaoUanMBUanKPUanMGBUanGBUanFUanVUanTUaoHUanDHUapHUanLUanRUanDUanNDUanSUaoHUanZUaoHUanCUanJ",
  "UanNJUanYUanKUanNGGUanGUanMUanNUaoYUanOaoNanNGONanHOapNanWOapNanPOanBHOaoOanMBOanKPOanMGBOanGB",
  "OaqNanFOanVOanTOaoHOanDHOapHOanLOanROanDOanNDOanSOaoHOanZOaoHOanCOanJOanNJOanYOanKOanNGGOanGOa",
  "nMOanNOaoYOanEaoNanNGENanHEapNanWEapNanPEanBHEaoEanMBEanKPEaqNanMGBEanGBEaqNanFEanVEanTEaoHEan",
  "DHEapHEanLEanREanDEanNDEanSEaoHEanZEaoHEanCEanJEanNJEanYEanKEanNGGEarNanGEapNanMEanNEaoYEaoGan",
  "LENGTHENERaeCOMMAaeFULL STOPaeQUESTION MARKaeSYLLABLE NDOLE FAatKAatSOOagMBOL FEENGalKEENGalTI",
  "NGalNIIalBANGalFAAalTAAalDANGamOONGalKUNGalTONGalDO-OalJONGaeDIGIT ZEROakONEakTWOalHREEakFOURa",
  "lIVEakSIXalEVENakEIGHTakNINEaeSYLLABLE NDOLE MAatDO@0A640aaCYRILLIC CAPITAL LETTER ZEMLYAajSMA",
  "LL LETTER ZEMLYAajCAPITAL LETTER DZELOajSMALL LETTER DZELOajCAPITAL LETTER REVERSED DZEajSMALL",
  " LETTER REVERSED DZEajCAPITAL LETTER IOTAajSMALL LETTER IOTAajCAPITAL LETTER DJERVajSMALL LETT",
  "ER DJERVajCAPITAL LETTER MONOGRAPH UKajSMALL LETTER MONOGRAPH UKajCAPITAL LETTER BROAD OMEGAaj",
  "SMALL LETTER BROAD OMEGAajCAPITAL LETTER NEUTRAL YERajSMALL LETTER NEUTRAL YERajCAPITAL LETTER",
  " YERU WITH BACK YERajSMALL LETTER YERU WITH BACK YERajCAPITAL LETTER IOTIFIED YATajSMALL LETTE",
  "R IOTIFIED YATajCAPITAL LETTER REVERSED YUajSMALL LETTER REVERSED YUajCAPITAL LETTER IOTIFIED ",
  "AajSMALL LETTER IOTIFIED AajCAPITAL LETTER CLOSED LITTLE YUSajSMALL LETTER CLOSED LITTLE YUSaj",
  "CAPITAL LETTER BLENDED YUSajSMALL LETTER BLENDED YUSajCAPITAL LETTER IOTIFIED CLOSED LITTLE YU",
  "SajSMALL LETTER IOTIFIED CLOSED LITTLE YUSajCAPITAL LETTER YNajSMALL LETTER YNajCAPITAL LETTER",
  " REVERSED TSEajSMALL LETTER REVERSED TSEajCAPITAL LETTER SOFT DEajSMALL LETTER SOFT DEajCAPITA",
  "L LETTER SOFT ELajSMALL LETTER SOFT ELajCAPITAL LETTER SOFT EMajSMALL LETTER SOFT EMajCAPITAL ",
  "LETTER MONOCULAR OajSMALL LETTER MONOCULAR OajCAPITAL LETTER BINOCULAR OajSMALL LETTER BINOCUL",
  "AR OajCAPITAL LETTER DOUBLE MONOCULAR OajSMALL LETTER DOUBLE MONOCULAR OajLETTER MULTIOCULAR O",
  "abOMBINING CYRILLIC VZMETatTEN MILLIONS SIGNatHUNDRED MILLIONS SIGNatTHOUSAND MILLIONS SIGNaaS",
  "LAVONIC ASTERISKaaCOMBINING CYRILLIC LETTER UKRAINIAN IEbaIbaYIbaUbaHARD SIGNbaYERUbaSOFT SIGN",
  "baOMEGAatKAVYKAatPAYEROKabYRILLIC KAVYKAajPAYEROKajCAPITAL LETTER DWEajSMALL LETTER DWEajCAPIT",
  "AL LETTER DZWEajSMALL LETTER DZWEajCAPITAL LETTER ZHWEajSMALL LETTER ZHWEajCAPITAL LETTER CCHE",
  "ajSMALL LETTER CCHEajCAPITAL LETTER DZZEajSMALL LETTER DZZEajCAPITAL LETTER TE WITH MIDDLE HOO",
  "KajSMALL LETTER TE WITH MIDDLE HOOKajCAPITAL LETTER TWEajSMALL LETTER TWEajCAPITAL LETTER TSWE",
  "ajSMALL LETTER TSWEajCAPITAL LETTER TSSEajSMALL LETTER TSSEajCAPITAL LETTER TCHEajSMALL LETTER",
  " TCHEajCAPITAL LETTER HWEajSMALL LETTER HWEajCAPITAL LETTER SHWEajSMALL LETTER SHWEajCAPITAL L",
  "ETTER DOUBLE OajSMALL LETTER DOUBLE OajCAPITAL LETTER CROSSED OajSMALL LETTER CROSSED OaaMODIF",
  "IER LETTER CYRILLIC HARD SIGNazSOFT SIGNaaCOMBINING CYRILLIC LETTER EFbaIOTIFIED EaaBAMUM LETT",
  "ER AanKAanUanKUanEEanREEanTAEanOanNYIanIanLAanPAanRIIapEEanLEEEEanMEEEEanTAAanNDAAaoJAEManManS",
  "UUanMUanSHIIaoIaoHEUXaoEUXanKYEEaoETanNUAEapaoJUAEanYOQanSHUanYUQaoAanNSHAanKEUXanPEUXanNJEEao",
  "TEEanPUEanWUEanPEEanFEEanRUanLUanMIanNIanREUXaoAEanKENanNGKWAENapGAapAanSHOanPUAEanFUaoOManWAa",
  "nNAanLIanPIanLOQanKOanMBENanRENanMENaoAanTIanKIanMOaoBAAanTETanKPAanTENanNTUUanSAMBAanFAAMAEan",
  "KOVUUapGHOMagCOMBINING MARK KOQNDONavTUKWENTISagNJAEMLIagFULL STOPagCOLONaiMMAagSEMICOLONagQUE",
  "STION MARK@0A700aaMODIFIER LETTER CHINESE TONE YIN PINGbeANG PINGbeIN SHANGbeANG SHANGbeIN QUb",
  "eANG QUbeIN RUbeANG RUaqEXTRA-HIGH DOTTED TONE BARaqHIGH DOTTED TONE BARaqMID DOTTED TONE BARa",
  "qLOW DOTTED TONE BARaqEXTRA-LOW DOTTED TONE BARawHIGH DOTTED LEFT-STEM TONE BARaqHIGH DOTTED L",
  "EFT-STEM TONE BARaqMID DOTTED LEFT-STEM TONE BARaqLOW DOTTED LEFT-STEM TONE BARaqEXTRA-LOW DOT",
  "TED LEFT-STEM TONE BARawHIGH LEFT-STEM TONE BARaqHIGH LEFT-STEM TONE BARaqMID LEFT-STEM TONE B",
  "ARaqLOW LEFT-STEM TONE BARaqEXTRA-LOW LEFT-STEM TONE BARaqDOT VERTICAL BARauSLASHauHORIZONTAL ",
  "BARaqLOWER RIGHT CORNER ANGLEaqRAISED UP ARROWaxDOWN ARROWaxEXCLAMATION MARKaxINVERTED EXCLAMA",
  "TION MARKaqLOW INVERTED EXCLAMATION MARKaqSTRESS AND HIGH TONEbbLOW TONEaaLATIN CAPITAL LETTER",
  " EGYPTOLOGICAL ALEFagSMALL LETTER EGYPTOLOGICAL ALEFagCAPITAL LETTER EGYPTOLOGICAL AINagSMALL ",
  "LETTER EGYPTOLOGICAL AINagCAPITAL LETTER HENGagSMALL LETTER HENGagCAPITAL LETTER TZagSMALL LET",
  "TER TZagCAPITAL LETTER TRESILLOagSMALL LETTER TRESILLOagCAPITAL LETTER CUATRILLOagSMALL LETTER",
  " CUATRILLOagCAPITAL LETTER CUATRILLO WITH COMMAagSMALL LETTER CUATRILLO WITH COMMAagLETTER SMA",
  "LL CAPITAL FbbSagCAPITAL LETTER AAagSMALL LETTER AAagCAPITAL LETTER AOagSMALL LETTER AOagCAPIT",
  "AL LETTER AUagSMALL LETTER AUagCAPITAL LETTER AVagSMALL LETTER AVagCAPITAL LETTER AV WITH HORI",
  "ZONTAL BARagSMALL LETTER AV WITH HORIZONTAL BARagCAPITAL LETTER AYagSMALL LETTER AYagCAPITAL L",
  "ETTER REVERSED C WITH DOTagSMALL LETTER REVERSED C WITH DOTagCAPITAL LETTER K WITH STROKEagSMA",
  "LL LETTER K WITH STROKEagCAPITAL LETTER K WITH DIAGONAL STROKEagSMALL LETTER K WITH DIAGONAL S",
  "TROKEagCAPITAL LETTER K WITH STROKE AND DIAGONAL STROKEagSMALL LETTER K WITH STROKE AND DIAGON",
  "AL STROKEagCAPITAL LETTER BROKEN LagSMALL LETTER BROKEN LagCAPITAL LETTER L WITH HIGH STROKEag",
  "SMALL LETTER L WITH HIGH STROKEagCAPITAL LETTER O WITH LONG STROKE OVERLAYagSMALL LETTER O WIT",
  "H LONG STROKE OVERLAYagCAPITAL LETTER O WITH LOOPagSMALL LETTER O WITH LOOPagCAPITAL LETTER OO",
  "agSMALL LETTER OOagCAPITAL LETTER P WITH STROKE THROUGH DESCENDERagSMALL LETTER P WITH STROKE ",
  "THROUGH DESCENDERagCAPITAL LETTER P WITH FLOURISHagSMALL LETTER P WITH FLOURISHagCAPITAL LETTE",
  "R P WITH SQUIRREL TAILagSMALL LETTER P WITH SQUIRREL TAILagCAPITAL LETTER Q WITH STROKE THROUG",
  "H DESCENDERagSMALL LETTER Q WITH STROKE THROUGH DESCENDERagCAPITAL LETTER Q WITH DIAGONAL STRO",
  "KEagSMALL LETTER Q WITH DIAGONAL STROKEagCAPITAL LETTER R ROTUNDAagSMALL LETTER R ROTUNDAagCAP",
  "ITAL LETTER RUM ROTUNDAagSMALL LETTER RUM ROTUNDAagCAPITAL LETTER V WITH DIAGONAL STROKEagSMAL",
  "L LETTER V WITH DIAGONAL STROKEagCAPITAL LETTER VYagSMALL LETTER VYagCAPITAL LETTER VISIGOTHIC",
  " ZagSMALL LETTER VISIGOTHIC ZagCAPITAL LETTER THORN WITH STROKEagSMALL LETTER THORN WITH STROK",
  "EagCAPITAL LETTER THORN WITH STROKE THROUGH DESCENDERagSMALL LETTER THORN WITH STROKE THROUGH ",
  "DESCENDERagCAPITAL LETTER VENDagSMALL LETTER VENDagCAPITAL LETTER ETagSMALL LETTER ETagCAPITAL",
  " LETTER ISagSMALL LETTER ISagCAPITAL LETTER CONagSMALL LETTER CONaaMODIFIER LETTER USaaLATIN S",
  "MALL LETTER DUMatLUMatMUMatNUMatRUMagLETTER SMALL CAPITAL RUMagSMALL LETTER TUMatUMagCAPITAL L",
  "ETTER INSULAR DagSMALL LETTER INSULAR DagCAPITAL LETTER INSULAR FagSMALL LETTER INSULAR FagCAP",
  "ITAL LETTER INSULAR GavTURNED INSULAR GagSMALL LETTER TURNED INSULAR GagCAPITAL LETTER TURNED ",
  "LagSMALL LETTER TURNED LagCAPITAL LETTER INSULAR RagSMALL LETTER INSULAR RagCAPITAL LETTER INS",
  "ULAR SagSMALL LETTER INSULAR SagCAPITAL LETTER INSULAR TagSMALL LETTER INSULAR TaaMODIFIER LET",
  "TER LOW CIRCUMFLEX ACCENTaqCOLONaqSHORT EQUALS SIGNaaLATIN CAPITAL LETTER SALTILLOagSMALL LETT",
  "ER SALTILLOagCAPITAL LETTER TURNED HagSMALL LETTER L WITH RETROFLEX HOOK AND BELTagLETTER SINO",
  "LOGICAL DOTagCAPITAL LETTER N WITH DESCENDERagSMALL LETTER N WITH DESCENDERagCAPITAL LETTER C ",
  "WITH BARagSMALL LETTER C WITH BARbaPALATAL HOOKatH WITH PALATAL HOOKagCAPITAL LETTER B WITH FL",
  "OURISHagSMALL LETTER B WITH FLOURISHagCAPITAL LETTER F WITH STROKEagSMALL LETTER F WITH STROKE",
  "agCAPITAL LETTER VOLAPUK AEagSMALL LETTER VOLAPUK AEagCAPITAL LETTER VOLAPUK OEagSMALL LETTER ",
  "VOLAPUK OEagCAPITAL LETTER VOLAPUK UEagSMALL LETTER VOLAPUK UEagCAPITAL LETTER G WITH OBLIQUE ",
  "STROKEagSMALL LETTER G WITH OBLIQUE STROKEagCAPITAL LETTER K WITH OBLIQUE STROKEagSMALL LETTER",
  " K WITH OBLIQUE STROKEagCAPITAL LETTER N WITH OBLIQUE STROKEagSMALL LETTER N WITH OBLIQUE STRO",
  "KEagCAPITAL LETTER R WITH OBLIQUE STROKEagSMALL LETTER R WITH OBLIQUE STROKEagCAPITAL LETTER S",
  " WITH OBLIQUE STROKEagSMALL LETTER S WITH OBLIQUE STROKEagCAPITAL LETTER H WITH HOOKavREVERSED",
  " OPEN EavSCRIPT GavL WITH BELTavSMALL CAPITAL IagLETTER SMALL CAPITAL QagCAPITAL LETTER TURNED",
  " KbcTavJ WITH CROSSED-TAILavCHIavBETAagSMALL LETTER BETAagCAPITAL LETTER OMEGAagSMALL LETTER O",
  "MEGAagCAPITAL LETTER U WITH STROKEagSMALL LETTER U WITH STROKEagCAPITAL LETTER GLOTTAL AagSMAL",
  "L LETTER GLOTTAL AagCAPITAL LETTER GLOTTAL IagSMALL LETTER GLOTTAL IagCAPITAL LETTER GLOTTAL U",
  "agSMALL LETTER GLOTTAL UagCAPITAL LETTER OLD POLISH OagSMALL LETTER OLD POLISH OagCAPITAL LETT",
  "ER ANGLICANA WagSMALL LETTER ANGLICANA WagCAPITAL LETTER C WITH PALATAL HOOKavS WITH HOOKavZ W",
  "ITH PALATAL HOOKavD WITH SHORT STROKE OVERLAYagSMALL LETTER D WITH SHORT STROKE OVERLAYagCAPIT",
  "AL LETTER S WITH SHORT STROKE OVERLAYagSMALL LETTER S WITH SHORT STROKE OVERLAY@0A7D0agCAPITAL",
  " LETTER CLOSED INSULAR GagSMALL LETTER CLOSED INSULAR G@0A7D3atDOUBLE THORN@0A7D5baWYNNagCAPIT",
  "AL LETTER MIDDLE SCOTS SagSMALL LETTER MIDDLE SCOTS SagCAPITAL LETTER SIGMOID SagSMALL LETTER ",
  "SIGMOID S@0A7F2aaMODIFIER LETTER CAPITAL CayFayQaaLATIN CAPITAL LETTER REVERSED HALF HagSMALL ",
  "LETTER REVERSED HALF HagEPIGRAPHIC LETTER SIDEWAYS IaaMODIFIER LETTER CAPITAL H WITH STROKEaqS",
  "MALL LIGATURE OEaaLATIN LETTER SMALL CAPITAL TURNED MagEPIGRAPHIC LETTER REVERSED FbhPayINVERT",
  "ED Maz LONGAayARCHAIC MaaSYLOTI NAGRI LETTER AauIanSIGN DVISVARAanLETTER UauEauOanSIGN HASANTA",
  "anLETTER KOavHOauGOavHOanSIGN ANUSVARAanLETTER COavHOauJOavHOauTTOawHOauDDOawHOauTOavHOauDOavH",
  "OauNOauPOavHOauBOavHOauMOauROauLOauRROauSOauHOanVOWEL SIGN AayIayUayEayOOanPOETRY MARK-1az2az3",
  "az4anSIGN ALTERNATE HASANTA@0A830aaNORTH INDIC FRACTION ONE QUARTERazHALFavTHREE QUARTERSavONE",
  " SIXTEENTHazEIGHTHavTHREE SIXTEENTHSamQUARTER MARKamPLACEHOLDER MARKamRUPEE MARKamQUANTITY MAR",
  "K@0A840aaPHAGS-PA LETTER KAarHAaqGAaqNGAaqCAarHAaqJAaqNYAaqTAarHAaqDAaqNAaqPAarHAaqBAaqMAaqTSA",
  "asHAaqDZAaqWAaqZHAarAaqSMALL AaqYAaqRAaqLAaqSHAarAaqHAaqAaqIaqUaqEaqOaqQAaqXAaqFAaqGGAaqEEajSU",
  "BJOINED LETTER WAbaYAajLETTER TTAasHAaqDDAaqNNAaqALTERNATE YAaqVOICELESS SHAavD HAaqASPIRATED ",
  "FAajSUBJOINED LETTER RAalPERFIXED LETTER RAajLETTER CANDRABINDUajSINGLE HEAD MARKajDOUBLE HEAD",
  " MARKajMARK SHADaoDOUBLE SHAD@0A880aaSAURASHTRA SIGN ANUSVARAaqVISARGAalLETTER AatAasIatIasUat",
  "UasVOCALIC RbbRbaLbbLasEatEasAIasOatOasAUasKAatHAasGAatHAasNGAasCAatHAasJAatHAasNYAasTTAauHAas",
  "DDAauHAasNNAasTAatHAasDAatHAasNAasPAatHAasBAatHAasMAasYAasRAasLAasVAasSHAatSAatAasHAasLLAalCON",
  "SONANT SIGN HAARUalVOWEL SIGN AAawIaxIawUaxUawVOCALIC RbfRbeLbfLawEaxEawAIawOaxOawAUalSIGN VIR",
  "AMAaqCANDRABINDU@0A8CEalDANDAamOUBLE DANDAamIGIT ZEROarONEarTWOasHREEarFOURasIVEarSIXasEVENarE",
  "IGHTarNINE@0A8E0aaCOMBINING DEVANAGARI DIGIT ZERObbONEbbTWObcHREEbbFOURbcIVEbbSIXbcEVENbbEIGHT",
  "bbNINEavLETTER AbcUbcKAbcNAbcPAbcRAbcVIavSIGN AVAGRAHAaaDEVANAGARI SIGN SPACING CANDRABINDUaqC",
  "ANDRABINDU VIRAMAaqDOUBLE CANDRABINDU VIRAMAaqCANDRABINDU TWObdHREEbcAVAGRAHAaqPUSHPIKAalGAP F",
  "ILLERalCARETalHEADSTROKEalSIGN SIDDHAMalJAIN OMalLETTER AYalVOWEL SIGN AYaaKAYAH LI DIGIT ZERO",
  "apONEapTWOaqHREEapFOURaqIVEapSIXaqEVENapEIGHTapNINEajLETTER KAarHAaqGAaqNGAaqSAarHAaqZAaqNYAaq",
  "TAaqHTAaqNAaqPAarHAaqMAaqDAaqBAaqRAaqYAaqLAaqWAaqTHAaqHAaqVAaqCAaqAaqOEaqIaqOOajVOWEL UEapEapU",
  "apEEapOajTONE PLOPHUaoCALYAat PLOPHUajSIGN CWIaoSHYAaaREJANG LETTER KAaoGAaoNGAaoTAaoDAaoNAaoP",
  "AaoBAaoMAaoCAaoJAaoNYAaoSAaoRAaoLAaoYAaoWAaoHAaoMBAaoNGGAapDAapYJAaoAahVOWEL SIGN IasUasEasAIa",
  "sOasAUasEUatAahCONSONANT SIGN NGaxawRawHahVIRAMA@0A95FahSECTION MARKaaHANGUL CHOSEONG TIKEUT-M",
  "IEUMaxPIEUPaxSIOSaxCIEUCaqRIEUL-KIYEOKawSSANGKIYEOKawTIKEUTawSSANGTIKEUTawMIEUMawPIEUPawSSANGP",
  "IEUPawKAPYEOUNPIEUPawSIOSawCIEUCawKHIEUKHaqMIEUM-KIYEOKawTIKEUTawSIOSaqPIEUP-SIOS-THIEUTHawKHI",
  "EUKHawHIEUHaqSSANGSIOS-PIEUPaqIEUNG-RIEULawHIEUHaqSSANGCIEUC-HIEUHavTHIEUTHaqPHIEUPH-HIEUHaqHI",
  "EUH-SIOSaqSSANGYEORINHIEUH@0A980aaJAVANESE SIGN PANYANGGAaoCECAKaoLAYARaoWIGNYANajLETTER AaqI ",
  "KAWIararIaqUaqPA CEREKaqNGA LELETaz RASWADIaqEaqAIaqOaqKAas SASAKatMURDAaqGAas MURDAaqNGAaqCAa",
  "s MURDAaqJAaqNYA MURDAaqJA MAHAPRANAaqNYAaqTTAat MAHAPRANAaqDDAat MAHAPRANAaqNA MURDAaqTAas MU",
  "RDAaqDAas MAHAPRANAaqNAaqPAas MURDAaqBAas MURDAaqMAaqYAaqRAas AGUNGaqLAaqWAaqSA MURDAauAHAPRAN",
  "AasaqHAajSIGN CECAK TELUajVOWEL SIGN TARUNGavOLONGauWULUay MELIKauSUKUay MENDUTauTALINGauDIRGA",
  " MUREauPEPETajCONSONANT SIGN KERETayPENGKALayCAKRAajPANGKONajLEFT RERENGGANajRIGHT RERENGGANaj",
  "PADA ANDAPaoMADYAaoLUHURaoWINDUaoPANGKATaoLINGSAapUNGSIaoADEGas ADEGaoPISELEHajTURNED PADA PIS",
  "ELEH@0A9CFajPANGRANGKEPajDIGIT ZEROapONEapTWOaqHREEapFOURaqIVEapSIXaqEVENapEIGHTapNINE@0A9DEaj",
  "PADA TIRTA TUMETESaoISEN-ISENaaMYANMAR LETTER SHAN GHAauCHAauJHAauNNAauBHAaiSIGN SHAN SAWaiMOD",
  "IFIER LETTER SHAN REDUPLICATIONaiLETTER TAI LAING NYAazFAazGAbaHAazJAbaHAazDDAbbHAazNNAaiTAI L",
  "AING DIGIT ZEROayONEayTWOazHREEayFOURazIVEaySIXazEVENayEIGHTayNINEaiLETTER TAI LAING LLAazDAba",
  "HAazBAbaHA@0AA00aaCHAM LETTER AamIamUamEamAIamOamKAanHAamGAanHAamNGUEaoAamCHAaoHAamJAanHAamNHU",
  "EaoAaoJAamTAanHAamDAanHAamNUEanAamDDAamPAanPAanHAamBAanHAamMUEanAamBBAamYAamRAamLAamVAamSSAanA",
  "amHAafVOWEL SIGN AAaqIarIaqEIaqUaqOEaraqAIarUaqUEafCONSONANT SIGN YAauRAauLAauWA@0AA40afLETTER",
  " FINAL KasGasNGafCONSONANT SIGN FINAL NGafLETTER FINAL CHasTasNasPasYasRasLasSSafCONSONANT SIG",
  "N FINAL MbaH@0AA50afDIGIT ZEROalONEalTWOamHREEalFOURamIVEalSIXamEVENalEIGHTalNINE@0AA5CafPUNCT",
  "UATION SPIRALarDANDAasOUBLE DANDAarTRIPLE DANDAaaMYANMAR LETTER KHAMTI GAawCAaxHAawJAaxHAawNYA",
  "awTTAayHAawDDAayHAaxHAawNAawSAawHAaxHAawFAaiMODIFIER LETTER KHAMTI REDUPLICATIONaiLETTER KHAMT",
  "I XAawZAawRAajOGOGRAM KHAMTI OAYayQNayHMaiSYMBOL AITON EXCLAMATIONavONEavTWOaiLETTER AITON RAa",
  "iSIGN PAO KAREN TONEanTAI LAING TONE-2bc5aiLETTER SHWE PALAUNG CHAbcSHAaaTAI VIET LETTER LOW K",
  "OaqHIGH KOaqLOW KHOaqHIGH KHOaqLOW KHHOaqHIGH KHHOaqLOW GOaqHIGH GOaqLOW NGOaqHIGH NGOaqLOW CO",
  "aqHIGH COaqLOW CHOaqHIGH CHOaqLOW SOaqHIGH SOaqLOW NYOaqHIGH NYOaqLOW DOaqHIGH DOaqLOW TOaqHIG",
  "H TOaqLOW THOaqHIGH THOaqLOW NOaqHIGH NOaqLOW BOaqHIGH BOaqLOW POaqHIGH POaqLOW PHOaqHIGH PHOa",
  "qLOW FOaqHIGH FOaqLOW MOaqHIGH MOaqLOW YOaqHIGH YOaqLOW ROaqHIGH ROaqLOW LOaqHIGH LOaqLOW VOaq",
  "HIGH VOaqLOW HOaqHIGH HOaqLOW OaqHIGH OajMAI KANGajVOWEL AAapIapUEaqapEapOajMAI KHITajVOWEL IA",
  "apUEAaqAapAUEaqYaqNaqMajTONE MAI EKasNUENGasTHOasSONG@0AADBajSYMBOL KONaqNUENGaqSAMaqHO HOIaqK",
  "OI KOIaaMEETEI MAYEK LETTER EauOauCHAauNYAauTTAawHAauDDAawHAauNNAauSHAavSAanVOWEL SIGN IIayUUa",
  "yAAIazUazAUanCHEIKHANanAHANG KHUDAMaoNJIanSYLLABLE REPETITION MARKanWORD REPETITION MARKanVOWE",
  "L SIGN VISARGAaoIRAMA@0AB01aaETHIOPIC SYLLABLE TTHUavIavAAavEEawavO@0AB09asDDHUavIavAAavEEawav",
  "O@0AB11atZUauIauAAauEEavauO@0AB20asCCHHAawUawIawAAawEEaxawO@0AB28asBBAauUauIauAAauEEavauO@0AB3",
  "0aaLATIN SMALL LETTER BARRED ALPHAatA REVERSED-SCHWAatBLACKLETTER EauARRED EatE WITH FLOURISHa",
  "tLENIS FatSCRIPT G WITH CROSSED-TAILatL WITH INVERTED LAZY SbaDOUBLE MIDDLE TILDEbaMIDDLE RING",
  "atM WITH CROSSED-TAILatN WITH CROSSED-TAILatENG WITH CROSSED-TAILatBLACKLETTER Obg WITH STROKE",
  "atOPEN O WITH STROKEatINVERTED OEatTURNED OE WITH STROKEbiHORIZONTAL STROKEbb OPEN-Obi WITH ST",
  "ROKEatSTIRRUP RagLETTER SMALL CAPITAL R WITH RIGHT LEGagSMALL LETTER R WITHOUT HANDLEatDOUBLE ",
  "RatR WITH CROSSED-TAILatDOUBLE R WITH CROSSED-TAILatSCRIPT Rbb WITH RINGatBASELINE ESHatU WITH",
  " SHORT RIGHT LEGavBAR WITH SHORT RIGHT LEGauIatTURNED UIatU WITH LEFT HOOKatCHIaw WITH LOW RIG",
  "HT RINGbgLEFT SERIFatX WITH LOW RIGHT RINGbcNG LEFT LEGbn AND LOW RIGHT RINGboWITH SERIFatY WI",
  "TH SHORT RIGHT LEGaaMODIFIER BREVE WITH INVERTED BREVEajLETTER SMALL HENGawL WITH INVERTED LAZ",
  "Y SbdMIDDLE TILDEawU WITH LEFT HOOKaaLATIN SMALL LETTER SAKHA YATatIOTIFIED EatOPEN OEatUOatIN",
  "VERTED ALPHAaaGREEK LETTER SMALL CAPITAL OMEGAaaLATIN SMALL LETTER DZ DIGRAPH WITH RETROFLEX H",
  "OOKatTS DIGRAPH WITH RETROFLEX HOOKauURNED R WITH MIDDLE TILDEaaMODIFIER LETTER SMALL TURNED W",
  "aqLEFT TACKaqRIGHT TACK@0AB70aaCHEROKEE SMALL LETTER AawEawIawOawUawVawGAawKAawGEaxIaxOaxUaxVa",
  "wHAaxEaxIaxOaxUaxVawLAaxEaxIaxOaxUaxVawMAaxEaxIaxOaxUawNAawHNAawNAHaxEaxIaxOaxUaxVawQUAayEayIa",
  "yOayUayVawSAaxaxEaxIaxOaxUaxVawDAawTAawDEawTEawDIawTIawDOaxUaxVaxLAawTLAayEayIayOayUayVaxSAayE",
  "ayIayOayUayVawWAaxEaxIaxOaxUaxVawYAaaMEETEI MAYEK LETTER KOKauSAMauLAIauMITauPAauNAauCHILauTIL",
  "auKHOUauNGOUauTHOUauWAIauYANGauHUKauUNauIauPHAMauATIYAauGOKauJHAMauRAIauBAauJILauDILauGHOUauDH",
  "OUauBHAMauKOK LONSUMauLAI LONSUMauMIT LONSUMauPA LONSUMauNA LONSUMauTIL LONSUMauNGOU LONSUMauI",
  " LONSUManVOWEL SIGN ONAPayINAPayANAPayYENAPaySOUNAPayUNAPayCHEINAPayNUNGanCHEIKHEIanLUM IYEKan",
  "APUN IYEK@0ABF0anDIGIT ZEROatONEatTWOauHREEatFOURauIVEatSIXauEVENatEIGHTatNINE@0D7B0aaHANGUL J",
  "UNGSEONG O-YEOatO-IarYO-AavEauEOarU-YEOatI-IarYU-AEauOarEU-AauEOavauOarI-YA-OavEauEOavatO-IatY",
  "OauUatIarARAEA-AaxE@0D7CBaiONGSEONG NIEUN-RIEULaxCHIEUCHarSSANGTIKEUTbc-PIEUParTIKEUT-PIEUPayS",
  "IOSbc-KIYEOKayCIEUCazHIEUCHayTHIEUTHarRIEUL-SSANGKIYEOKaxKIYEOK-HIEUHarSSANGRIEUL-KHIEUKHarRIE",
  "UL-MIEUM-HIEUHaxPIEUP-TIKEUTbdPHIEUPHaxYESIEUNGazORINHIEUH-HIEUHarKAPYEOUNRIEULarMIEUM-NIEUNax",
  "SSANGNIEUNarSSANGMIEUMarMIEUM-PIEUP-SIOSaxCIEUCarPIEUP-TIKEUTaxRIEUL-PHIEUPHaxMIEUMarSSANGPIEU",
  "ParPIEUP-SIOS-TIKEUTaxCIEUCayHIEUCHarSIOS-MIEUMawKAPYEOUNPIEUPasSANGSIOS-KIYEOKbbTIKEUTasIOS-P",
  "ANSIOSawCIEUCaxHIEUCHawTHIEUTHawHIEUHarPANSIOS-PIEUPazKAPYEOUNPIEUParYESIEUNG-MIEUMbaHIEUHarCI",
  "EUC-PIEUPaxSSANGPIEUParSSANGCIEUCarPHIEUPH-SIOSazTHIEUTH@0F900aaCJK COMPATIBILITY IDEOGRAPH-F9",
  "00bf1bf2bf3bf4bf5bf6bf7bf8bf9bfAbfBbfCbfDbfEbfFbe10bf1bf2bf3bf4bf5bf6bf7bf8bf9bfAbfBbfCbfDbfEb",
  "fFbe20bf1bf2bf3bf4bf5bf6bf7bf8bf9bfAbfBbfCbfDbfEbfFbe30bf1bf2bf3bf4bf5bf6bf7bf8bf9bfAbfBbfCbfD",
  "bfEbfFbe40bf1bf2bf3bf4bf5bf6bf7bf8bf9bfAbfBbfCbfDbfEbfFbe50bf1bf2bf3bf4bf5bf6bf7bf8bf9bfAbfBbf",
  "CbfDbfEbfFbe60bf1bf2bf3bf4bf5bf6bf7bf8bf9bfAbfBbfCbfDbfEbfFbe70bf1bf2bf3bf4bf5bf6bf7bf8bf9bfAb",
  "fBbfCbfDbfEbfFbe80bf1bf2bf3bf4bf5bf6bf7bf8bf9bfAbfBbfCbfDbfEbfFbe90bf1bf2bf3bf4bf5bf6bf7bf8bf9",
  "bfAbfBbfCbfDbfEbfFbeA0bf1bf2bf3bf4bf5bf6bf7bf8bf9bfAbfBbfCbfDbfEbfFbeB0bf1bf2bf3bf4bf5bf6bf7bf",
  "8bf9bfAbfBbfCbfDbfEbfFbeC0bf1bf2bf3bf4bf5bf6bf7bf8bf9bfAbfBbfCbfDbfEbfFbeD0bf1bf2bf3bf4bf5bf6b",
  "f7bf8bf9bfAbfBbfCbfDbfEbfFbeE0bf1bf2bf3bf4bf5bf6bf7bf8bf9bfAbfBbfCbfDbfEbfFbeF0bf1bf2bf3bf4bf5",
  "bf6bf7bf8bf9bfAbfBbfCbfDbfEbfFbdA00bf1bf2bf3bf4bf5bf6bf7bf8bf9bfAbfBbfCbfDbfEbfFbe10bf1bf2bf3b",
  "f4bf5bf6bf7bf8bf9bfAbfBbfCbfDbfEbfFbe20bf1bf2bf3bf4bf5bf6bf7bf8bf9bfAbfBbfCbfDbfEbfFbe30bf1bf2",
  "bf3bf4bf5bf6bf7bf8bf9bfAbfBbfCbfDbfEbfFbe40bf1bf2bf3bf4bf5bf6bf7bf8bf9bfAbfBbfCbfDbfEbfFbe50bf",
  "1bf2bf3bf4bf5bf6bf7bf8bf9bfAbfBbfCbfDbfEbfFbe60bf1bf2bf3bf4bf5bf6bf7bf8bf9bfAbfBbfCbfD@0FA70be",
  "70bf1bf2bf3bf4bf5bf6bf7bf8bf9bfAbfBbfCbfDbfEbfFbe80bf1bf2bf3bf4bf5bf6bf7bf8bf9bfAbfBbfCbfDbfEb",
  "fFbe90bf1bf2bf3bf4bf5bf6bf7bf8bf9bfAbfBbfCbfDbfEbfFbeA0bf1bf2bf3bf4bf5bf6bf7bf8bf9bfAbfBbfCbfD",
  "bfEbfFbeB0bf1bf2bf3bf4bf5bf6bf7bf8bf9bfAbfBbfCbfDbfEbfFbeC0bf1bf2bf3bf4bf5bf6bf7bf8bf9bfAbfBbf",
  "CbfDbfEbfFbeD0bf1bf2bf3bf4bf5bf6bf7bf8bf9@0FB00aaLATIN SMALL LIGATURE FFawIawLawFIaxLavLONG S ",
  "TavST@0FB13aaARMENIAN SMALL LIGATURE MEN NOWbcECHbcINIayVEW NOWayMEN XEH@0FB1DaaHEBREW LETTER ",
  "YOD WITH HIRIQahPOINT JUDEO-SPANISH VARIKAahLIGATURE YIDDISH YOD YOD PATAHaiETTER ALTERNATIVE ",
  "AYINaoWIDE ALEFatDALETatHEatKAFatLAMEDatFINAL MEMatRESHatTAVaoALTERNATIVE PLUS SIGNaoSHIN WITH",
  " SHIN DOTazIN DOTayDAGESH AND SHIN DOTbkIN DOTaoALEF WITH PATAHayQAMATSayMAPIQaoBET WITH DAGES",
  "HaoGIMEL WITH DAGESHaoDALET WITH DAGESHaoHE WITH MAPIQaoVAV WITH DAGESHaoZAYIN WITH DAGESH@0FB",
  "38aoTET WITH DAGESHaoYOD WITH DAGESHaoFINAL KAF WITH DAGESHaoKAF WITH DAGESHaoLAMED WITH DAGES",
  "H@0FB3EaoMEM WITH DAGESH@0FB40aoNUN WITH DAGESHaoSAMEKH WITH DAGESH@0FB43aoFINAL PE WITH DAGES",
  "HaoPE WITH DAGESH@0FB46aoTSADI WITH DAGESHaoQOF WITH DAGESHaoRESH WITH DAGESHaoSHIN WITH DAGES",
  "HaoTAV WITH DAGESHaoVAV WITH HOLAMaoBET WITH RAFEaoKAF WITH RAFEaoPE WITH RAFEaiIGATURE ALEF L",
  "AMEDaaARABIC LETTER ALEF WASLA ISOLATED FORMazFINAL FORMaoBEEH ISOLATED FORMatFINAL FORMatINIT",
  "IAL FORMatMEDIAL FORMaoPEH ISOLATED FORMasFINAL FORMasINITIAL FORMasMEDIAL FORMaoBEHEH ISOLATE",
  "D FORMauFINAL FORMauINITIAL FORMauMEDIAL FORMaoTTEHEH ISOLATED FORMavFINAL FORMavINITIAL FORMa",
  "vMEDIAL FORMapEHEH ISOLATED FORMauFINAL FORMauINITIAL FORMauMEDIAL FORMapTEH ISOLATED FORMatFI",
  "NAL FORMatINITIAL FORMatMEDIAL FORMaoVEH ISOLATED FORMasFINAL FORMasINITIAL FORMasMEDIAL FORMa",
  "oPEHEH ISOLATED FORMauFINAL FORMauINITIAL FORMauMEDIAL FORMaoDYEH ISOLATED FORMatFINAL FORMatI",
  "NITIAL FORMatMEDIAL FORMaoNYEH ISOLATED FORMatFINAL FORMatINITIAL FORMatMEDIAL FORMaoTCHEH ISO",
  "LATED FORMauFINAL FORMauINITIAL FORMauMEDIAL FORMatEH ISOLATED FORMawFINAL FORMawINITIAL FORMa",
  "wMEDIAL FORMaoDDAHAL ISOLATED FORMavFINAL FORMapAHAL ISOLATED FORMauFINAL FORMapUL ISOLATED FO",
  "RMasFINAL FORMapDAL ISOLATED FORMatFINAL FORMaoJEH ISOLATED FORMasFINAL FORMaoRREH ISOLATED FO",
  "RMatFINAL FORMaoKEHEH ISOLATED FORMauFINAL FORMauINITIAL FORMauMEDIAL FORMaoGAF ISOLATED FORMa",
  "sFINAL FORMasINITIAL FORMasMEDIAL FORMapUEH ISOLATED FORMatFINAL FORMatINITIAL FORMatMEDIAL FO",
  "RMaoNGOEH ISOLATED FORMauFINAL FORMauINITIAL FORMauMEDIAL FORMapOON GHUNNA ISOLATED FORMbaFINA",
  "L FORMaoRNOON ISOLATED FORMauFINAL FORMauINITIAL FORMauMEDIAL FORMaoHEH WITH YEH ABOVE ISOLATE",
  "D FORMbhFINAL FORMasGOAL ISOLATED FORMaxFINAL FORMaxINITIAL FORMaxMEDIAL FORMasDOACHASHMEE ISO",
  "LATED FORMbeFINAL FORMbeINITIAL FORMbeMEDIAL FORMaoYEH BARREE ISOLATED FORMazFINAL FORMazWITH ",
  "HAMZA ABOVE ISOLATED FORMbqFINAL FORMahSYMBOL DOT ABOVEasBELOWaoTWO DOTS ABOVEaxBELOWapHREE DO",
  "TS ABOVEazBELOWazPOINTING DOWNWARDS ABOVEbsBELOWaoFOUR DOTS ABOVEayBELOWaoDOUBLE VERTICAL BAR ",
  "BELOWaoTWO DOTS VERTICALLY ABOVEbiBELOWaoRINGaoSMALL TAH ABOVEayBELOWaoWASLA ABOVE@0FBD3ahLETT",
  "ER NG ISOLATED FORMarFINAL FORMarINITIAL FORMarMEDIAL FORMaoU ISOLATED FORMaqFINAL FORMaoOE IS",
  "OLATED FORMarFINAL FORMaoYU ISOLATED FORMarFINAL FORMaoU WITH HAMZA ABOVE ISOLATED FORMaoVE IS",
  "OLATED FORMarFINAL FORMaoKIRGHIZ OE ISOLATED FORMazFINAL FORMawYU ISOLATED FORMazFINAL FORMaoE",
  " ISOLATED FORMaqFINAL FORMaqINITIAL FORMaqMEDIAL FORMaoUIGHUR KAZAKH KIRGHIZ ALEF MAKSURA INIT",
  "IAL FORMbxMEDIAL FORMaiIGATURE YEH WITH HAMZA ABOVE WITH ALEF ISOLATED FORMbvFINAL FORMbrE ISO",
  "LATED FORMbtFINAL FORMbqWAW ISOLATED FORMbuFINAL FORMbqU ISOLATED FORMbsFINAL FORMbqOE ISOLATE",
  "D FORMbtFINAL FORMbqYU ISOLATED FORMbtFINAL FORMbqE ISOLATED FORMbsFINAL FORMbsINITIAL FORMaqU",
  "IGHUR KIRGHIZ YEH WITH HAMZA ABOVE WITH ALEF MAKSURA ISOLATED FORMcsFINAL FORMcsINITIAL FORMai",
  "ETTER FARSI YEH ISOLATED FORMayFINAL FORMayINITIAL FORMayMEDIAL FORMaiIGATURE YEH WITH HAMZA A",
  "BOVE WITH JEEM ISOLATED FORMbqHAH ISOLATED FORMbqMEEM ISOLATED FORMbqALEF MAKSURA ISOLATED FOR",
  "MbqYEH ISOLATED FORMaqBEH WITH JEEM ISOLATED FORMazHAH ISOLATED FORMazKHAH ISOLATED FORMazMEEM",
  " ISOLATED FORMazALEF MAKSURA ISOLATED FORMazYEH ISOLATED FORMaqTEH WITH JEEM ISOLATED FORMazHA",
  "H ISOLATED FORMazKHAH ISOLATED FORMazMEEM ISOLATED FORMazALEF MAKSURA ISOLATED FORMazYEH ISOLA",
  "TED FORMarHEH WITH JEEM ISOLATED FORMbaMEEM ISOLATED FORMbaALEF MAKSURA ISOLATED FORMbaYEH ISO",
  "LATED FORMaqJEEM WITH HAH ISOLATED FORMbaMEEM ISOLATED FORMaqHAH WITH JEEM ISOLATED FORMazMEEM",
  " ISOLATED FORMaqKHAH WITH JEEM ISOLATED FORMbaHAH ISOLATED FORMbaMEEM ISOLATED FORMaqSEEN WITH",
  " JEEM ISOLATED FORMbaHAH ISOLATED FORMbaKHAH ISOLATED FORMbaMEEM ISOLATED FORMarAD WITH HAH IS",
  "OLATED FORMazMEEM ISOLATED FORMaqDAD WITH JEEM ISOLATED FORMazHAH ISOLATED FORMazKHAH ISOLATED",
  " FORMazMEEM ISOLATED FORMaqTAH WITH HAH ISOLATED FORMazMEEM ISOLATED FORMaqZAH WITH MEEM ISOLA",
  "TED FORMaqAIN WITH JEEM ISOLATED FORMazMEEM ISOLATED FORMaqGHAIN WITH JEEM ISOLATED FORMbbMEEM",
  " ISOLATED FORMaqFEH WITH JEEM ISOLATED FORMazHAH ISOLATED FORMazKHAH ISOLATED FORMazMEEM ISOLA",
  "TED FORMazALEF MAKSURA ISOLATED FORMazYEH ISOLATED FORMaqQAF WITH HAH ISOLATED FORMazMEEM ISOL",
  "ATED FORMazALEF MAKSURA ISOLATED FORMazYEH ISOLATED FORMaqKAF WITH ALEF ISOLATED FORMazJEEM IS",
  "OLATED FORMazHAH ISOLATED FORMazKHAH ISOLATED FORMazLAM ISOLATED FORMazMEEM ISOLATED FORMazALE",
  "F MAKSURA ISOLATED FORMazYEH ISOLATED FORMaqLAM WITH JEEM ISOLATED FORMazHAH ISOLATED FORMazKH",
  "AH ISOLATED FORMazMEEM ISOLATED FORMazALEF MAKSURA ISOLATED FORMazYEH ISOLATED FORMaqMEEM WITH",
  " JEEM ISOLATED FORMbaHAH ISOLATED FORMbaKHAH ISOLATED FORMbaMEEM ISOLATED FORMbaALEF MAKSURA I",
  "SOLATED FORMbaYEH ISOLATED FORMaqNOON WITH JEEM ISOLATED FORMbaHAH ISOLATED FORMbaKHAH ISOLATE",
  "D FORMbaMEEM ISOLATED FORMbaALEF MAKSURA ISOLATED FORMbaYEH ISOLATED FORMaqHEH WITH JEEM ISOLA",
  "TED FORMazMEEM ISOLATED FORMazALEF MAKSURA ISOLATED FORMazYEH ISOLATED FORMaqYEH WITH JEEM ISO",
  "LATED FORMazHAH ISOLATED FORMazKHAH ISOLATED FORMazMEEM ISOLATED FORMazALEF MAKSURA ISOLATED F",
  "ORMazYEH ISOLATED FORMaqTHAL WITH SUPERSCRIPT ALEF ISOLATED FORMaqREH WITH SUPERSCRIPT ALEF IS",
  "OLATED FORMaqALEF MAKSURA WITH SUPERSCRIPT ALEF ISOLATED FORMaqSHADDA WITH DAMMATAN ISOLATED F",
  "ORMbcKASRATAN ISOLATED FORMbcFATHA ISOLATED FORMbcDAMMA ISOLATED FORMbcKASRA ISOLATED FORMbcSU",
  "PERSCRIPT ALEF ISOLATED FORMaqYEH WITH HAMZA ABOVE WITH REH FINAL FORMbqZAIN FINAL FORMbqMEEM ",
  "FINAL FORMbqNOON FINAL FORMbqALEF MAKSURA FINAL FORMbqYEH FINAL FORMaqBEH WITH REH FINAL FORMa",
  "zZAIN FINAL FORMazMEEM FINAL FORMazNOON FINAL FORMazALEF MAKSURA FINAL FORMazYEH FINAL FORMaqT",
  "EH WITH REH FINAL FORMazZAIN FINAL FORMazMEEM FINAL FORMazNOON FINAL FORMazALEF MAKSURA FINAL ",
  "FORMazYEH FINAL FORMarHEH WITH REH FINAL FORMbaZAIN FINAL FORMbaMEEM FINAL FORMbaNOON FINAL FO",
  "RMbaALEF MAKSURA FINAL FORMbaYEH FINAL FORMaqFEH WITH ALEF MAKSURA FINAL FORMazYEH FINAL FORMa",
  "qQAF WITH ALEF MAKSURA FINAL FORMazYEH FINAL FORMaqKAF WITH ALEF FINAL FORMazLAM FINAL FORMazM",
  "EEM FINAL FORMazALEF MAKSURA FINAL FORMazYEH FINAL FORMaqLAM WITH MEEM FINAL FORMazALEF MAKSUR",
  "A FINAL FORMazYEH FINAL FORMaqMEEM WITH ALEF FINAL FORMbaMEEM FINAL FORMaqNOON WITH REH FINAL ",
  "FORMbaZAIN FINAL FORMbaMEEM FINAL FORMbaNOON FINAL FORMbaALEF MAKSURA FINAL FORMbaYEH FINAL FO",
  "RMaqALEF MAKSURA WITH SUPERSCRIPT ALEF FINAL FORMaqYEH WITH REH FINAL FORMazZAIN FINAL FORMazM",
  "EEM FINAL FORMazNOON FINAL FORMazALEF MAKSURA FINAL FORMazYEH FINAL FORMazHAMZA ABOVE WITH JEE",
  "M INITIAL FORMbqHAH INITIAL FORMbqKHAH INITIAL FORMbqMEEM INITIAL FORMbqHEH INITIAL FORMaqBEH ",
  "WITH JEEM INITIAL FORMazHAH INITIAL FORMazKHAH INITIAL FORMazMEEM INITIAL FORMazHEH INITIAL FO",
  "RMaqTEH WITH JEEM INITIAL FORMazHAH INITIAL FORMazKHAH INITIAL FORMazMEEM INITIAL FORMazHEH IN",
  "ITIAL FORMarHEH WITH MEEM INITIAL FORMaqJEEM WITH HAH INITIAL FORMbaMEEM INITIAL FORMaqHAH WIT",
  "H JEEM INITIAL FORMazMEEM INITIAL FORMaqKHAH WITH JEEM INITIAL FORMbaMEEM INITIAL FORMaqSEEN W",
  "ITH JEEM INITIAL FORMbaHAH INITIAL FORMbaKHAH INITIAL FORMbaMEEM INITIAL FORMarAD WITH HAH INI",
  "TIAL FORMazKHAH INITIAL FORMazMEEM INITIAL FORMaqDAD WITH JEEM INITIAL FORMazHAH INITIAL FORMa",
  "zKHAH INITIAL FORMazMEEM INITIAL FORMaqTAH WITH HAH INITIAL FORMaqZAH WITH MEEM INITIAL FORMaq",
  "AIN WITH JEEM INITIAL FORMazMEEM INITIAL FORMaqGHAIN WITH JEEM INITIAL FORMbbMEEM INITIAL FORM",
  "aqFEH WITH JEEM INITIAL FORMazHAH INITIAL FORMazKHAH INITIAL FORMazMEEM INITIAL FORMaqQAF WITH",
  " HAH INITIAL FORMazMEEM INITIAL FORMaqKAF WITH JEEM INITIAL FORMazHAH INITIAL FORMazKHAH INITI",
  "AL FORMazLAM INITIAL FORMazMEEM INITIAL FORMaqLAM WITH JEEM INITIAL FORMazHAH INITIAL FORMazKH",
  "AH INITIAL FORMazMEEM INITIAL FORMazHEH INITIAL FORMaqMEEM WITH JEEM INITIAL FORMbaHAH INITIAL",
  " FORMbaKHAH INITIAL FORMbaMEEM INITIAL FORMaqNOON WITH JEEM INITIAL FORMbaHAH INITIAL FORMbaKH",
  "AH INITIAL FORMbaMEEM INITIAL FORMbaHEH INITIAL FORMaqHEH WITH JEEM INITIAL FORMazMEEM INITIAL",
  " FORMazSUPERSCRIPT ALEF INITIAL FORMaqYEH WITH JEEM INITIAL FORMazHAH INITIAL FORMazKHAH INITI",
  "AL FORMazMEEM INITIAL FORMazHEH INITIAL FORMbaAMZA ABOVE WITH MEEM MEDIAL FORMbqHEH MEDIAL FOR",
  "MaqBEH WITH MEEM MEDIAL FORMazHEH MEDIAL FORMaqTEH WITH MEEM MEDIAL FORMazHEH MEDIAL FORMarHEH",
  " WITH MEEM MEDIAL FORMbaHEH MEDIAL FORMaqSEEN WITH MEEM MEDIAL FORMbaHEH MEDIAL FORMarHEEN WIT",
  "H MEEM MEDIAL FORMbbHEH MEDIAL FORMaqKAF WITH LAM MEDIAL FORMazMEEM MEDIAL FORMaqLAM WITH MEEM",
  " MEDIAL FORMaqNOON WITH MEEM MEDIAL FORMbaHEH MEDIAL FORMaqYEH WITH MEEM MEDIAL FORMazHEH MEDI",
  "AL FORMaqSHADDA WITH FATHA MEDIAL FORMbcDAMMA MEDIAL FORMbcKASRA MEDIAL FORMaqTAH WITH ALEF MA",
  "KSURA ISOLATED FORMazYEH ISOLATED FORMaqAIN WITH ALEF MAKSURA ISOLATED FORMazYEH ISOLATED FORM",
  "aqGHAIN WITH ALEF MAKSURA ISOLATED FORMbbYEH ISOLATED FORMaqSEEN WITH ALEF MAKSURA ISOLATED FO",
  "RMbaYEH ISOLATED FORMarHEEN WITH ALEF MAKSURA ISOLATED FORMbbYEH ISOLATED FORMaqHAH WITH ALEF ",
  "MAKSURA ISOLATED FORMazYEH ISOLATED FORMaqJEEM WITH ALEF MAKSURA ISOLATED FORMbaYEH ISOLATED F",
  "ORMaqKHAH WITH ALEF MAKSURA ISOLATED FORMbaYEH ISOLATED FORMaqSAD WITH ALEF MAKSURA ISOLATED F",
  "ORMazYEH ISOLATED FORMaqDAD WITH ALEF MAKSURA ISOLATED FORMazYEH ISOLATED FORMaqSHEEN WITH JEE",
  "M ISOLATED FORMbbHAH ISOLATED FORMbbKHAH ISOLATED FORMbbMEEM ISOLATED FORMbbREH ISOLATED FORMa",
  "rEEN WITH REH ISOLATED FORMarAD WITH REH ISOLATED FORMaqDAD WITH REH ISOLATED FORMaqTAH WITH A",
  "LEF MAKSURA FINAL FORMazYEH FINAL FORMaqAIN WITH ALEF MAKSURA FINAL FORMazYEH FINAL FORMaqGHAI",
  "N WITH ALEF MAKSURA FINAL FORMbbYEH FINAL FORMaqSEEN WITH ALEF MAKSURA FINAL FORMbaYEH FINAL F",
  "ORMarHEEN WITH ALEF MAKSURA FINAL FORMbbYEH FINAL FORMaqHAH WITH ALEF MAKSURA FINAL FORMazYEH ",
  "FINAL FORMaqJEEM WITH ALEF MAKSURA FINAL FORMbaYEH FINAL FORMaqKHAH WITH ALEF MAKSURA FINAL FO",
  "RMbaYEH FINAL FORMaqSAD WITH ALEF MAKSURA FINAL FORMazYEH FINAL FORMaqDAD WITH ALEF MAKSURA FI",
  "NAL FORMazYEH FINAL FORMaqSHEEN WITH JEEM FINAL FORMbbHAH FINAL FORMbbKHAH FINAL FORMbbMEEM FI",
  "NAL FORMbbREH FINAL FORMarEEN WITH REH FINAL FORMarAD WITH REH FINAL FORMaqDAD WITH REH FINAL ",
  "FORMaqSHEEN WITH JEEM INITIAL FORMbbHAH INITIAL FORMbbKHAH INITIAL FORMbbMEEM INITIAL FORMarEE",
  "N WITH HEH INITIAL FORMarHEEN WITH HEH INITIAL FORMaqTAH WITH MEEM INITIAL FORMaqSEEN WITH JEE",
  "M MEDIAL FORMbaHAH MEDIAL FORMbaKHAH MEDIAL FORMarHEEN WITH JEEM MEDIAL FORMbbHAH MEDIAL FORMb",
  "bKHAH MEDIAL FORMaqTAH WITH MEEM MEDIAL FORMaqZAH WITH MEEM MEDIAL FORMaqALEF WITH FATHATAN FI",
  "NAL FORMbjISOLATED FORMaaORNATE LEFT PARENTHESISahRIGHT PARENTHESISaaARABIC LIGATURE RAHIMAHU ",
  "ALLAAHasDI ALLAAHU ANHbgAAbgUMbiAAbhNNAaqSALLALLAAHU ALAYHI WA-AALIHaqALAYHI AS-SALAAMawM AS-S",
  "ALAAMaxAA AS-SALAAMaw AS-SALAATU WAS-SALAAMaqQUDDISA SIRRAHaqSALLALLAHU ALAYHI WAAALIHEE WA-SA",
  "LLAMaqALAYHAA AS-SALAAMaqTABAARAKA WA-TAAALAAaqRAHIMAHUM ALLAAHaqTEH WITH JEEM WITH MEEM INITI",
  "AL FORMazHAH WITH JEEM FINAL FORMbnINITIAL FORMbiMEEM INITIAL FORMazKHAH WITH MEEM INITIAL FOR",
  "MazMEEM WITH JEEM INITIAL FORMbjHAH INITIAL FORMbjKHAH INITIAL FORMaqJEEM WITH MEEM WITH HAH F",
  "INAL FORMboINITIAL FORMaqHAH WITH MEEM WITH YEH FINAL FORMbjALEF MAKSURA FINAL FORMaqSEEN WITH",
  " HAH WITH JEEM INITIAL FORMbaJEEM WITH HAH INITIAL FORMbkALEF MAKSURA FINAL FORMbaMEEM WITH HA",
  "H FINAL FORMboINITIAL FORMbkJEEM INITIAL FORMbkMEEM FINAL FORMbpINITIAL FORMarAD WITH HAH WITH",
  " HAH FINAL FORMbmINITIAL FORMazMEEM WITH MEEM FINAL FORMarHEEN WITH HAH WITH MEEM FINAL FORMbp",
  "INITIAL FORMbbJEEM WITH YEH FINAL FORMbbMEEM WITH KHAH FINAL FORMbqINITIAL FORMblMEEM FINAL FO",
  "RMbqINITIAL FORMaqDAD WITH HAH WITH ALEF MAKSURA FINAL FORMazKHAH WITH MEEM FINAL FORMboINITIA",
  "L FORMaqTAH WITH MEEM WITH HAH FINAL FORMbnINITIAL FORMbjMEEM INITIAL FORMbjYEH FINAL FORMaqAI",
  "N WITH JEEM WITH MEEM FINAL FORMazMEEM WITH MEEM FINAL FORMboINITIAL FORMbjALEF MAKSURA FINAL ",
  "FORMaqGHAIN WITH MEEM WITH MEEM FINAL FORMblYEH FINAL FORMblALEF MAKSURA FINAL FORMaqFEH WITH ",
  "KHAH WITH MEEM FINAL FORMboINITIAL FORMaqQAF WITH MEEM WITH HAH FINAL FORMbjMEEM FINAL FORMaqL",
  "AM WITH HAH WITH MEEM FINAL FORMbiYEH FINAL FORMbiALEF MAKSURA FINAL FORMazJEEM WITH JEEM INIT",
  "IAL FORMboFINAL FORMazKHAH WITH MEEM FINAL FORMboINITIAL FORMazMEEM WITH HAH FINAL FORMbnINITI",
  "AL FORMaqMEEM WITH HAH WITH JEEM INITIAL FORMbjMEEM INITIAL FORMbjYEH FINAL FORMbaJEEM WITH HA",
  "H INITIAL FORMbkMEEM INITIAL FORMbaKHAH WITH JEEM INITIAL FORMbkMEEM INITIAL FORM@0FD92baJEEM ",
  "WITH KHAH INITIAL FORMaqHEH WITH MEEM WITH JEEM INITIAL FORMbjMEEM INITIAL FORMaqNOON WITH HAH",
  " WITH MEEM INITIAL FORMbjALEF MAKSURA FINAL FORMbaJEEM WITH MEEM FINAL FORMbpINITIAL FORMbkALE",
  "F MAKSURA FINAL FORMbaMEEM WITH YEH FINAL FORMbkALEF MAKSURA FINAL FORMaqYEH WITH MEEM WITH ME",
  "EM FINAL FORMboINITIAL FORMaqBEH WITH KHAH WITH YEH FINAL FORMaqTEH WITH JEEM WITH YEH FINAL F",
  "ORMbjALEF MAKSURA FINAL FORMazKHAH WITH YEH FINAL FORMbjALEF MAKSURA FINAL FORMazMEEM WITH YEH",
  " FINAL FORMbjALEF MAKSURA FINAL FORMaqJEEM WITH MEEM WITH YEH FINAL FORMbaHAH WITH ALEF MAKSUR",
  "A FINAL FORMbaMEEM WITH ALEF MAKSURA FINAL FORMaqSEEN WITH KHAH WITH ALEF MAKSURA FINAL FORMar",
  "AD WITH HAH WITH YEH FINAL FORMarHEEN WITH HAH WITH YEH FINAL FORMaqDAD WITH HAH WITH YEH FINA",
  "L FORMaqLAM WITH JEEM WITH YEH FINAL FORMazMEEM WITH YEH FINAL FORMaqYEH WITH HAH WITH YEH FIN",
  "AL FORMazJEEM WITH YEH FINAL FORMazMEEM WITH YEH FINAL FORMaqMEEM WITH MEEM WITH YEH FINAL FOR",
  "MaqQAF WITH MEEM WITH YEH FINAL FORMaqNOON WITH HAH WITH YEH FINAL FORMaqQAF WITH MEEM WITH HA",
  "H INITIAL FORMaqLAM WITH HAH WITH MEEM INITIAL FORMaqAIN WITH MEEM WITH YEH FINAL FORMaqKAF WI",
  "TH MEEM WITH YEH FINAL FORMaqNOON WITH JEEM WITH HAH INITIAL FORMaqMEEM WITH KHAH WITH YEH FIN",
  "AL FORMaqLAM WITH JEEM WITH MEEM INITIAL FORMaqKAF WITH MEEM WITH MEEM FINAL FORMaqLAM WITH JE",
  "EM WITH MEEM FINAL FORMaqNOON WITH JEEM WITH HAH FINAL FORMaqJEEM WITH HAH WITH YEH FINAL FORM",
  "aqHAH WITH JEEM WITH YEH FINAL FORMaqMEEM WITH JEEM WITH YEH FINAL FORMaqFEH WITH MEEM WITH YE",
  "H FINAL FORMaqBEH WITH HAH WITH YEH FINAL FORMaqKAF WITH MEEM WITH MEEM INITIAL FORMaqAIN WITH",
  " JEEM WITH MEEM INITIAL FORMaqSAD WITH MEEM WITH MEEM INITIAL FORMarEEN WITH KHAH WITH YEH FIN",
  "AL FORMaqNOON WITH JEEM WITH YEH FINAL FORM@0FDCFaqSALAAMUHU ALAYNAA@0FDF0atLA USED AS KORANIC",
  " STOP SIGN ISOLATED FORMaqQALA USED AS KORANIC STOP SIGN ISOLATED FORMaqALLAH ISOLATED FORMarK",
  "BAR ISOLATED FORMaqMOHAMMAD ISOLATED FORMaqSALAM ISOLATED FORMaqRASOUL ISOLATED FORMaqALAYHE I",
  "SOLATED FORMaqWASALLAM ISOLATED FORMaqSALLA ISOLATED FORMavLLAHOU ALAYHE WASALLAMaqJALLAJALALO",
  "UHOUaaRIAL SIGNaaARABIC LIGATURE BISMILLAH AR-RAHMAN AR-RAHEEMaqSUBHAANAHU WA TAAALAAaqAZZA WA",
  " JALLaaVARIATION SELECTOR-1at2at3at4at5at6at7at8at9at10au1au2au3au4au5au6aaPRESENTATION FORM F",
  "OR VERTICAL COMMAbfIDEOGRAPHIC COMMAbrFULL STOPbfCOLONbfSEMICOLONbfEXCLAMATION MARKbfQUESTION ",
  "MARKbfLEFT WHITE LENTICULAR BRACKETbfRIGHT WHITE LENTICULAR BRAKCETbfHORIZONTAL ELLIPSIS@0FE20",
  "aaCOMBINING LIGATURE LEFT HALFatRIGHT HALFakDOUBLE TILDE LEFT HALFaxRIGHT HALFakMACRON LEFT HA",
  "LFarRIGHT HALFakCONJOINING MACRONakLIGATURE LEFT HALF BELOWatRIGHT HALF BELOWakTILDE LEFT HALF",
  " BELOWaqRIGHT HALF BELOWakMACRON LEFT HALF BELOWarRIGHT HALF BELOWakCONJOINING MACRON BELOWalY",
  "RILLIC TITLO LEFT HALFazRIGHT HALFaaPRESENTATION FORM FOR VERTICAL TWO DOT LEADERbfEM DASHbgN ",
  "DASHbfLOW LINEbfWAVY LOW LINEbfLEFT PARENTHESISbfRIGHT PARENTHESISbfLEFT CURLY BRACKETbfRIGHT ",
  "CURLY BRACKETbfLEFT TORTOISE SHELL BRACKETbfRIGHT TORTOISE SHELL BRACKETbfLEFT BLACK LENTICULA",
  "R BRACKETbfRIGHT BLACK LENTICULAR BRACKETbfLEFT DOUBLE ANGLE BRACKETbfRIGHT DOUBLE ANGLE BRACK",
  "ETbfLEFT ANGLE BRACKETbfRIGHT ANGLE BRACKETbfLEFT CORNER BRACKETbfRIGHT CORNER BRACKETbfLEFT W",
  "HITE CORNER BRACKETbfRIGHT WHITE CORNER BRACKETaaSESAME DOTaaWHITE SESAME DOTaaPRESENTATION FO",
  "RM FOR VERTICAL LEFT SQUARE BRACKETbfRIGHT SQUARE BRACKETaaDASHED OVERLINEaaCENTRELINE OVERLIN",
  "EaaWAVY OVERLINEaaDOUBLE WAVY OVERLINEabASHED LOW LINEaaCENTRELINE LOW LINEaaWAVY LOW LINEaaSM",
  "ALL COMMAagIDEOGRAPHIC COMMAagFULL STOP@0FE54agSEMICOLONagCOLONagQUESTION MARKagEXCLAMATION MA",
  "RKahM DASHagLEFT PARENTHESISagRIGHT PARENTHESISagLEFT CURLY BRACKETagRIGHT CURLY BRACKETagLEFT",
  " TORTOISE SHELL BRACKETagRIGHT TORTOISE SHELL BRACKETagNUMBER SIGNagAMPERSANDahSTERISKagPLUS S",
  "IGNagHYPHEN-MINUSagLESS-THAN SIGNagGREATER-THAN SIGNagEQUALS SIGN@0FE68agREVERSE SOLIDUSagDOLL",
  "AR SIGNagPERCENT SIGNagCOMMERCIAL AT@0FE70aaARABIC FATHATAN ISOLATED FORMahTATWEEL WITH FATHAT",
  "AN ABOVEahDAMMATAN ISOLATED FORMahTAIL FRAGMENTahKASRATAN ISOLATED FORM@0FE76ahFATHA ISOLATED ",
  "FORManMEDIAL FORMahDAMMA ISOLATED FORManMEDIAL FORMahKASRA ISOLATED FORManMEDIAL FORMahSHADDA ",
  "ISOLATED FORMaoMEDIAL FORMaiUKUN ISOLATED FORManMEDIAL FORMahLETTER HAMZA ISOLATED FORMaoALEF ",
  "WITH MADDA ABOVE ISOLATED FORMbkFINAL FORMayHAMZA ABOVE ISOLATED FORMbkFINAL FORMaoWAW WITH HA",
  "MZA ABOVE ISOLATED FORMbjFINAL FORMaoALEF WITH HAMZA BELOW ISOLATED FORMbkFINAL FORMaoYEH WITH",
  " HAMZA ABOVE ISOLATED FORMbjFINAL FORMbjINITIAL FORMbjMEDIAL FORMaoALEF ISOLATED FORMatFINAL F",
  "ORMaoBEH ISOLATED FORMasFINAL FORMasINITIAL FORMasMEDIAL FORMaoTEH MARBUTA ISOLATED FORMbaFINA",
  "L FORMasISOLATED FORMasFINAL FORMasINITIAL FORMasMEDIAL FORMapHEH ISOLATED FORMatFINAL FORMatI",
  "NITIAL FORMatMEDIAL FORMaoJEEM ISOLATED FORMatFINAL FORMatINITIAL FORMatMEDIAL FORMaoHAH ISOLA",
  "TED FORMasFINAL FORMasINITIAL FORMasMEDIAL FORMaoKHAH ISOLATED FORMatFINAL FORMatINITIAL FORMa",
  "tMEDIAL FORMaoDAL ISOLATED FORMasFINAL FORMaoTHAL ISOLATED FORMatFINAL FORMaoREH ISOLATED FORM",
  "asFINAL FORMaoZAIN ISOLATED FORMatFINAL FORMaoSEEN ISOLATED FORMatFINAL FORMatINITIAL FORMatME",
  "DIAL FORMapHEEN ISOLATED FORMauFINAL FORMauINITIAL FORMauMEDIAL FORMapAD ISOLATED FORMasFINAL ",
  "FORMasINITIAL FORMasMEDIAL FORMaoDAD ISOLATED FORMasFINAL FORMasINITIAL FORMasMEDIAL FORMaoTAH",
  " ISOLATED FORMasFINAL FORMasINITIAL FORMasMEDIAL FORMaoZAH ISOLATED FORMasFINAL FORMasINITIAL ",
  "FORMasMEDIAL FORMaoAIN ISOLATED FORMasFINAL FORMasINITIAL FORMasMEDIAL FORMaoGHAIN ISOLATED FO",
  "RMauFINAL FORMauINITIAL FORMauMEDIAL FORMaoFEH ISOLATED FORMasFINAL FORMasINITIAL FORMasMEDIAL",
  " FORMaoQAF ISOLATED FORMasFINAL FORMasINITIAL FORMasMEDIAL FORMaoKAF ISOLATED FORMasFINAL FORM",
  "asINITIAL FORMasMEDIAL FORMaoLAM ISOLATED FORMasFINAL FORMasINITIAL FORMasMEDIAL FORMaoMEEM IS",
  "OLATED FORMatFINAL FORMatINITIAL FORMatMEDIAL FORMaoNOON ISOLATED FORMatFINAL FORMatINITIAL FO",
  "RMatMEDIAL FORMaoHEH ISOLATED FORMasFINAL FORMasINITIAL FORMasMEDIAL FORMaoWAW ISOLATED FORMas",
  "FINAL FORMaoALEF MAKSURA ISOLATED FORMbbFINAL FORMaoYEH ISOLATED FORMasFINAL FORMasINITIAL FOR",
  "MasMEDIAL FORMaiIGATURE LAM WITH ALEF WITH MADDA ABOVE ISOLATED FORMbvFINAL FORMbjHAMZA ABOVE ",
  "ISOLATED FORMbvFINAL FORMbpBELOW ISOLATED FORMbvFINAL FORMbeISOLATED FORMbeFINAL FORM@0FEFFaaZ",
  "ERO WIDTH NO-BREAK SPACE@0FF01aaFULLWIDTH EXCLAMATION MARKakQUOTATION MARKakNUMBER SIGNakDOLLA",
  "R SIGNakPERCENT SIGNakAMPERSANDalPOSTROPHEakLEFT PARENTHESISakRIGHT PARENTHESISakASTERISKakPLU",
  "S SIGNakCOMMAakHYPHEN-MINUSakFULL STOPakSOLIDUSakDIGIT ZEROaqONEaqTWOarHREEaqFOURarIVEaqSIXarE",
  "VENaqEIGHTaqNINEakCOLONakSEMICOLONakLESS-THAN SIGNakEQUALS SIGNakGREATER-THAN SIGNakQUESTION M",
  "ARKakCOMMERCIAL ATakLATIN CAPITAL LETTER AbfBbfCbfDbfEbfFbfGbfHbfIbfJbfKbfLbfMbfNbfObfPbfQbfRb",
  "fSbfTbfUbfVbfWbfXbfYbfZalEFT SQUARE BRACKETakREVERSE SOLIDUSalIGHT SQUARE BRACKETakCIRCUMFLEX ",
  "ACCENTakLOW LINEakGRAVE ACCENTakLATIN SMALL LETTER AbdBbdCbdDbdEbdFbdGbdHbdIbdJbdKbdLbdMbdNbdO",
  "bdPbdQbdRbdSbdTbdUbdVbdWbdXbdYbdZalEFT CURLY BRACKETakVERTICAL LINEakRIGHT CURLY BRACKETakTILD",
  "EakLEFT WHITE PARENTHESISakRIGHT WHITE PARENTHESISaaHALFWIDTH IDEOGRAPHIC FULL STOPakLEFT CORN",
  "ER BRACKETakRIGHT CORNER BRACKETakIDEOGRAPHIC COMMAakKATAKANA MIDDLE DOTatLETTER WObaSMALL Abg",
  "IbgUbgEbgObgYAbhUbhObgTUas-HIRAGANA PROLONGED SOUND MARKas LETTER AbaIbaUbaEbaObaKAbbIbbUbbEbb",
  "ObaSAbbIbbUbbEbbObaTAbbIbbUbbEbbObaNAbbIbbUbbEbbObaHAbbIbbUbbEbbObaMAbbIbbUbbEbbObaYAbbUbbObaR",
  "AbbIbbUbbEbbObaWAbaNatVOICED SOUND MARKatSEMI-VOICED SOUND MARKakHANGUL FILLERarLETTER KIYEOKa",
  "ySSANGKIYEOKayKIYEOK-SIOSayNIEUNbd-CIEUCbeHIEUHayTIKEUTaySSANGTIKEUTayRIEULbd-KIYEOKbeMIEUMbeP",
  "IEUPbeSIOSbeTHIEUTHbePHIEUPHbeHIEUHayMIEUMayPIEUPaySSANGPIEUPayPIEUP-SIOSaySIOSazSANGSIOSayIEU",
  "NGayCIEUCaySSANGCIEUCayCHIEUCHayKHIEUKHayTHIEUTHayPHIEUPHayHIEUH@0FFC2ayAazEayYAbaEayEOaz@0FFC",
  "AayYEObaayOayWAbaEayOE@0FFD2ayYOayUayWEObaazIayYU@0FFDAayEUayYIayI@0FFE0aaFULLWIDTH CENT SIGNa",
  "kPOUND SIGNakNOT SIGNakMACRONakBROKEN BARakYEN SIGNakWON SIGN@0FFE8aaHALFWIDTH FORMS LIGHT VER",
  "TICALakLEFTWARDS ARROWakUPWARDS ARROWakRIGHTWARDS ARROWakDOWNWARDS ARROWakBLACK SQUAREakWHITE ",
  "CIRCLE@0FFF9aaINTERLINEAR ANNOTATION ANCHORaxSEPARATORaxTERMINATORaaOBJECT REPLACEMENT CHARACT",
  "ERaaREPLACEMENT CHARACTER"]

end EntityGen.Text.CharName
