/-! Second names of characters: controls, abbreviations, corrections. -/

namespace EntityGen.Text.CharName

/-- Names by code point, in the form that `CharName.find?` reads. -/
def aliasNames : List String := [
  "@00000aaNUL@00000adLaaSOH@00001abTART OF HEADINGajTEXT@00002acXaaEND OF TEXT@00003abTXabND OF ",
  "TRANSMISSION@00004abOTabNQ@00005adUIRYaaACK@00006adNOWLEDGEabLERT@00007aaBELabACKSPACE@00008ab",
  "SaaCHARACTER TABULATION@00009aaHORIZONTAL TABULATION@00009abT@00009aaTABaaEND OF LINE@0000AabO",
  "L@0000AaaLF@0000AabINE FEED@0000AaaNEW LINE@0000AabLaaLINE TABULATION@0000BaaVERTICAL TABULATI",
  "ON@0000BabTaaFF@0000CabORM FEEDaaCARRIAGE RETURN@0000DabRaaLOCKING-SHIFT ONE@0000EaaSHIFT OUT@",
  "0000EabOaaLOCKING-SHIFT ZERO@0000FaaSHIFT IN@0000FabIaaDATA LINK ESCAPE@00010abLEabC1@00011abE",
  "VICE CONTROL ONEabC2@00012abEVICE CONTROL TWOabC3@00013abEVICE CONTROL THREEabC4@00014abEVICE ",
  "CONTROL FOURaaNAK@00015abEGATIVE ACKNOWLEDGEaaSYN@00016adCHRONOUS IDLEaaEND OF TRANSMISSION BL",
  "OCK@00017abTBaaCAN@00018adCELaaEND OF MEDIUM@00019abOMaaSUB@0001AadSTITUTEaaESC@0001BadAPEaaFI",
  "LE SEPARATOR@0001CabS@0001CaaINFORMATION SEPARATOR FOURaaGROUP SEPARATOR@0001DabS@0001DaaINFOR",
  "MATION SEPARATOR THREEaxWO@0001EaaRECORD SEPARATOR@0001EabSaaINFORMATION SEPARATOR ONE@0001Faa",
  "UNIT SEPARATOR@0001FabSaaSP@0007FaaDEL@0007FadETEaaPAD@00080adDING CHARACTERaaHIGH OCTET PRESE",
  "T@00081abOPaaBPH@00082abREAK PERMITTED HEREaaNBH@00083abO BREAK HEREaaIND@00084adEXaaNEL@00085",
  "acXT LINEaaSSA@00086abTART OF SELECTED AREAaaEND OF SELECTED AREA@00087abSAaaCHARACTER TABULAT",
  "ION SET@00088aaHORIZONTAL TABULATION SET@00088abTSaaCHARACTER TABULATION WITH JUSTIFICATION@00",
  "089aaHORIZONTAL TABULATION WITH JUSTIFICATION@00089abTJaaLINE TABULATION SET@0008AaaVERTICAL T",
  "ABULATION SET@0008AabTSaaPARTIAL LINE DOWN@0008BanFORWARD@0008BabLDabARTIAL LINE BACKWARD@0008",
  "CanUP@0008CabLUaaREVERSE INDEX@0008DaiLINE FEED@0008DabIaaSINGLE SHIFT TWO@0008Eag-SHIFT-2@000",
  "8EabS2abINGLE SHIFT THREE@0008Fag-SHIFT-3@0008FabS3aaDCS@00090abEVICE CONTROL STRINGaaPRIVATE ",
  "USE ONE@00091al-1@00091abU1abRIVATE USE TWO@00092al-2@00092abU2aaSET TRANSMIT STATE@00093abTSa",
  "aCANCEL CHARACTER@00094abCHaaMESSAGE WAITING@00095abWaaSPA@00096abTART OF GUARDED AREA@00096aj",
  "PROTECTED AREAaaEND OF GUARDED AREA@00097ahPROTECTED AREA@00097abPAaaSOS@00098abTART OF STRING",
  "abGC@00099abINGLE GRAPHIC CHARACTER INTRODUCERabCI@0009AabINGLE CHARACTER INTRODUCERaaCONTROL ",
  "SEQUENCE INTRODUCER@0009BabSIaaST@0009CacRING TERMINATORaaOPERATING SYSTEM COMMAND@0009DabSCaa",
  "PM@0009EabRIVACY MESSAGEaaAPC@0009FacPLICATION PROGRAM COMMANDaaNBSP@000ADaaSHY@001A2aaLATIN C",
  "APITAL LETTER GHAagSMALL LETTER GHA@0034FaaCGJ@0061CaaALM@00709aaSYRIAC SUBLINEAR COLON SKEWED",
  " LEFT@00CDEaaKANNADA LETTER LLLA@00E9DaaLAO LETTER FO FON@00E9FapAY@00EA3alRO@00EA5alLO@00FD0a",
  "aTIBETAN MARK BKA- SHOG GI MGO RGYAN@011ECaaHANGUL JONGSEONG YESIEUNG-KIYEOKbaSSANGKIYEOKarSSA",
  "NGYESIEUNGarYESIEUNG-KHIEUKH@0180BaaFVS1ad2ad3aaMVSaaFVS4@0200BaaZWSPacNJacJaaLRMaaRLM@0202Aaa",
  "LREaaRLEaaPDFaaLROaaRLOaaNNBSP@0205FaaMMSPaaWJ@02066aaLRIaaRLIaaFSIaaPDI@02118aaWEIERSTRASS EL",
  "LIPTIC FUNCTION@02448aaMICR ON US SYMBOLafDASH SYMBOL@02B7AaaLEFTWARDS TRIANGLE-HEADED ARROW W",
  "ITH DOUBLE VERTICAL STROKE@02B7CaaRIGHTWARDS TRIANGLE-HEADED ARROW WITH DOUBLE VERTICAL STROKE",
  "@0A015aaYI SYLLABLE ITERATION MARK@0AA6EaaMYANMAR LETTER KHAMTI LLA@0FE00aaVS1ac2ac3ac4ac5ac6a",
  "c7ac8ac9ac10ad1ad2ad3ad4ad5ad6@0FE18aaPRESENTATION FORM FOR VERTICAL RIGHT WHITE LENTICULAR BR",
  "ACKET@0FEFFaaBOM@0FEFFabYTE ORDER MARK@0FEFFaaZWNBSP@122D4aaCUNEIFORM SIGN NU11 TENUauOVER NU1",
  "1 BUR OVER BUR@16E56aaMEDEFAIDRIN CAPITAL LETTER HbbNG@16E76amSMALL LETTER HazNG@1B001aaHENTAI",
  "GANA LETTER E-1@1D0C5aaBYZANTINE MUSICAL SYMBOL FTHORA SKLIRON CHROMA VASIS@E0100aaVS17ad8ad9a",
  "c20ad1ad2ad3ad4ad5ad6ad7ad8ad9ac30ad1ad2ad3ad4ad5ad6ad7ad8ad9ac40ad1ad2ad3ad4ad5ad6ad7ad8ad9ac",
  "50ad1ad2ad3ad4ad5ad6ad7ad8ad9ac60ad1ad2ad3ad4ad5ad6ad7ad8ad9ac70ad1ad2ad3ad4ad5ad6ad7ad8ad9ac8",
  "0ad1ad2ad3ad4ad5ad6ad7ad8ad9ac90ad1ad2ad3ad4ad5ad6ad7ad8ad9ac100ae1ae2ae3ae4ae5ae6ae7ae8ae9ad1",
  "0ae1ae2ae3ae4ae5ae6ae7ae8ae9ad20ae1ae2ae3ae4ae5ae6ae7ae8ae9ad30ae1ae2ae3ae4ae5ae6ae7ae8ae9ad40",
  "ae1ae2ae3ae4ae5ae6ae7ae8ae9ad50ae1ae2ae3ae4ae5ae6ae7ae8ae9ad60ae1ae2ae3ae4ae5ae6ae7ae8ae9ad70a",
  "e1ae2ae3ae4ae5ae6ae7ae8ae9ad80ae1ae2ae3ae4ae5ae6ae7ae8ae9ad90ae1ae2ae3ae4ae5ae6ae7ae8ae9ac200a",
  "e1ae2ae3ae4ae5ae6ae7ae8ae9ad10ae1ae2ae3ae4ae5ae6ae7ae8ae9ad20ae1ae2ae3ae4ae5ae6ae7ae8ae9ad30ae",
  "1ae2ae3ae4ae5ae6ae7ae8ae9ad40ae1ae2ae3ae4ae5ae6ae7ae8ae9ad50ae1ae2ae3ae4ae5ae6"]

end EntityGen.Text.CharName
