/-! The names of the characters of Unicode 14.0, without those that are made from a code or from the
letters of a syllable.

A small letter starts a name and tells how many words it shares with the name before it: none for
`a`, one for `b`. The names are those of successive characters, except where a colon and a code
point in hexadecimal digits come first. -/

namespace WireTypes.Text

/-- The names of characters from U+0020 to U+151D. -/
def namesFrom0020 : List String := [
  ":20aSPACEaEXCLAMATION MARKaQUOTATION MARKaNUMBER SIGNaDOLLAR SIGNaPERCENT SIGNaAMPERSAND",
  "aAPOSTROPHEaLEFT PARENTHESISaRIGHT PARENTHESISaASTERISKaPLUS SIGNaCOMMAaHYPHEN-MINUS",
  "aFULL STOPaSOLIDUSaDIGIT ZERObONEbTWObTHREEbFOURbFIVEbSIXbSEVENbEIGHTbNINEaCOLONaSEMICOLON",
  "aLESS-THAN SIGNaEQUALS SIGNaGREATER-THAN SIGNaQUESTION MARKaCOMMERCIAL AT",
  "aLATIN CAPITAL LETTER AdBdCdDdEdFdGdHdIdJdKdLdMdNdOdPdQdRdSdTdUdVdWdXdYdZ",
  "aLEFT SQUARE BRACKETaREVERSE SOLIDUSaRIGHT SQUARE BRACKETaCIRCUMFLEX ACCENTaLOW LINE",
  "aGRAVE ACCENTaLATIN SMALL LETTER AdBdCdDdEdFdGdHdIdJdKdLdMdNdOdPdQdRdSdTdUdVdWdXdYdZ",
  "aLEFT CURLY BRACKETaVERTICAL LINEaRIGHT CURLY BRACKETaTILDE:A0aNO-BREAK SPACE",
  "aINVERTED EXCLAMATION MARKaCENT SIGNaPOUND SIGNaCURRENCY SIGNaYEN SIGNaBROKEN BAR",
  "aSECTION SIGNaDIAERESISaCOPYRIGHT SIGNaFEMININE ORDINAL INDICATOR",
  "aLEFT-POINTING DOUBLE ANGLE QUOTATION MARKaNOT SIGNaSOFT HYPHENaREGISTERED SIGNaMACRON",
  "aDEGREE SIGNaPLUS-MINUS SIGNaSUPERSCRIPT TWObTHREEaACUTE ACCENTaMICRO SIGNaPILCROW SIGN",
  "aMIDDLE DOTaCEDILLAaSUPERSCRIPT ONEaMASCULINE ORDINAL INDICATOR",
  "aRIGHT-POINTING DOUBLE ANGLE QUOTATION MARKaVULGAR FRACTION ONE QUARTERdHALFcTHREE QUARTERS",
  "aINVERTED QUESTION MARKaLATIN CAPITAL LETTER A WITH GRAVEfACUTEfCIRCUMFLEXfTILDEfDIAERESIS",
  "fRING ABOVEdAEdC WITH CEDILLAdE WITH GRAVEfACUTEfCIRCUMFLEXfDIAERESISdI WITH GRAVEfACUTE",
  "fCIRCUMFLEXfDIAERESISdETHdN WITH TILDEdO WITH GRAVEfACUTEfCIRCUMFLEXfTILDEfDIAERESIS",
  "aMULTIPLICATION SIGNaLATIN CAPITAL LETTER O WITH STROKEdU WITH GRAVEfACUTEfCIRCUMFLEX",
  "fDIAERESISdY WITH ACUTEdTHORNbSMALL LETTER SHARP SdA WITH GRAVEfACUTEfCIRCUMFLEXfTILDE",
  "fDIAERESISfRING ABOVEdAEdC WITH CEDILLAdE WITH GRAVEfACUTEfCIRCUMFLEXfDIAERESISdI WITH GRAVE",
  "fACUTEfCIRCUMFLEXfDIAERESISdETHdN WITH TILDEdO WITH GRAVEfACUTEfCIRCUMFLEXfTILDEfDIAERESIS",
  "aDIVISION SIGNaLATIN SMALL LETTER O WITH STROKEdU WITH GRAVEfACUTEfCIRCUMFLEXfDIAERESIS",
  "dY WITH ACUTEdTHORNdY WITH DIAERESISbCAPITAL LETTER A WITH MACRONbSMALL LETTER A WITH MACRON",
  "bCAPITAL LETTER A WITH BREVEbSMALL LETTER A WITH BREVEbCAPITAL LETTER A WITH OGONEK",
  "bSMALL LETTER A WITH OGONEKbCAPITAL LETTER C WITH ACUTEbSMALL LETTER C WITH ACUTE",
  "bCAPITAL LETTER C WITH CIRCUMFLEXbSMALL LETTER C WITH CIRCUMFLEX",
  "bCAPITAL LETTER C WITH DOT ABOVEbSMALL LETTER C WITH DOT ABOVEbCAPITAL LETTER C WITH CARON",
  "bSMALL LETTER C WITH CARONbCAPITAL LETTER D WITH CARONbSMALL LETTER D WITH CARON",
  "bCAPITAL LETTER D WITH STROKEbSMALL LETTER D WITH STROKEbCAPITAL LETTER E WITH MACRON",
  "bSMALL LETTER E WITH MACRONbCAPITAL LETTER E WITH BREVEbSMALL LETTER E WITH BREVE",
  "bCAPITAL LETTER E WITH DOT ABOVEbSMALL LETTER E WITH DOT ABOVEbCAPITAL LETTER E WITH OGONEK",
  "bSMALL LETTER E WITH OGONEKbCAPITAL LETTER E WITH CARONbSMALL LETTER E WITH CARON",
  "bCAPITAL LETTER G WITH CIRCUMFLEXbSMALL LETTER G WITH CIRCUMFLEXbCAPITAL LETTER G WITH BREVE",
  "bSMALL LETTER G WITH BREVEbCAPITAL LETTER G WITH DOT ABOVEbSMALL LETTER G WITH DOT ABOVE",
  "bCAPITAL LETTER G WITH CEDILLAbSMALL LETTER G WITH CEDILLAbCAPITAL LETTER H WITH CIRCUMFLEX",
  "bSMALL LETTER H WITH CIRCUMFLEXbCAPITAL LETTER H WITH STROKEbSMALL LETTER H WITH STROKE",
  "bCAPITAL LETTER I WITH TILDEbSMALL LETTER I WITH TILDEbCAPITAL LETTER I WITH MACRON",
  "bSMALL LETTER I WITH MACRONbCAPITAL LETTER I WITH BREVEbSMALL LETTER I WITH BREVE",
  "bCAPITAL LETTER I WITH OGONEKbSMALL LETTER I WITH OGONEKbCAPITAL LETTER I WITH DOT ABOVE",
  "bSMALL LETTER DOTLESS IbCAPITAL LIGATURE IJbSMALL LIGATURE IJ",
  "bCAPITAL LETTER J WITH CIRCUMFLEXbSMALL LETTER J WITH CIRCUMFLEX",
  "bCAPITAL LETTER K WITH CEDILLAbSMALL LETTER K WITH CEDILLAdKRAbCAPITAL LETTER L WITH ACUTE",
  "bSMALL LETTER L WITH ACUTEbCAPITAL LETTER L WITH CEDILLAbSMALL LETTER L WITH CEDILLA",
  "bCAPITAL LETTER L WITH CARONbSMALL LETTER L WITH CARONbCAPITAL LETTER L WITH MIDDLE DOT",
  "bSMALL LETTER L WITH MIDDLE DOTbCAPITAL LETTER L WITH STROKEbSMALL LETTER L WITH STROKE",
  "bCAPITAL LETTER N WITH ACUTEbSMALL LETTER N WITH ACUTEbCAPITAL LETTER N WITH CEDILLA",
  "bSMALL LETTER N WITH CEDILLAbCAPITAL LETTER N WITH CARONbSMALL LETTER N WITH CARON",
  "ePRECEDED BY APOSTROPHEbCAPITAL LETTER ENGbSMALL LETTER ENGbCAPITAL LETTER O WITH MACRON",
  "bSMALL LETTER O WITH MACRONbCAPITAL LETTER O WITH BREVEbSMALL LETTER O WITH BREVE",
  "bCAPITAL LETTER O WITH DOUBLE ACUTEbSMALL LETTER O WITH DOUBLE ACUTEbCAPITAL LIGATURE OE",
  "bSMALL LIGATURE OEbCAPITAL LETTER R WITH ACUTEbSMALL LETTER R WITH ACUTE",
  "bCAPITAL LETTER R WITH CEDILLAbSMALL LETTER R WITH CEDILLAbCAPITAL LETTER R WITH CARON",
  "bSMALL LETTER R WITH CARONbCAPITAL LETTER S WITH ACUTEbSMALL LETTER S WITH ACUTE",
  "bCAPITAL LETTER S WITH CIRCUMFLEXbSMALL LETTER S WITH CIRCUMFLEX",
  "bCAPITAL LETTER S WITH CEDILLAbSMALL LETTER S WITH CEDILLAbCAPITAL LETTER S WITH CARON",
  "bSMALL LETTER S WITH CARONbCAPITAL LETTER T WITH CEDILLAbSMALL LETTER T WITH CEDILLA",
  "bCAPITAL LETTER T WITH CARONbSMALL LETTER T WITH CARONbCAPITAL LETTER T WITH STROKE",
  "bSMALL LETTER T WITH STROKEbCAPITAL LETTER U WITH TILDEbSMALL LETTER U WITH TILDE",
  "bCAPITAL LETTER U WITH MACRONbSMALL LETTER U WITH MACRONbCAPITAL LETTER U WITH BREVE",
  "bSMALL LETTER U WITH BREVEbCAPITAL LETTER U WITH RING ABOVEbSMALL LETTER U WITH RING ABOVE",
  "bCAPITAL LETTER U WITH DOUBLE ACUTEbSMALL LETTER U WITH DOUBLE ACUTE",
  "bCAPITAL LETTER U WITH OGONEKbSMALL LETTER U WITH OGONEKbCAPITAL LETTER W WITH CIRCUMFLEX",
  "bSMALL LETTER W WITH CIRCUMFLEXbCAPITAL LETTER Y WITH CIRCUMFLEX",
  "bSMALL LETTER Y WITH CIRCUMFLEXbCAPITAL LETTER Y WITH DIAERESISdZ WITH ACUTE",
  "bSMALL LETTER Z WITH ACUTEbCAPITAL LETTER Z WITH DOT ABOVEbSMALL LETTER Z WITH DOT ABOVE",
  "bCAPITAL LETTER Z WITH CARONbSMALL LETTER Z WITH CARONdLONG SdB WITH STROKE",
  "bCAPITAL LETTER B WITH HOOKfTOPBARbSMALL LETTER B WITH TOPBARbCAPITAL LETTER TONE SIX",
  "bSMALL LETTER TONE SIXbCAPITAL LETTER OPEN OdC WITH HOOKbSMALL LETTER C WITH HOOK",
  "bCAPITAL LETTER AFRICAN DdD WITH HOOKfTOPBARbSMALL LETTER D WITH TOPBARdTURNED DELTA",
  "bCAPITAL LETTER REVERSED EdSCHWAdOPEN EdF WITH HOOKbSMALL LETTER F WITH HOOK",
  "bCAPITAL LETTER G WITH HOOKdGAMMAbSMALL LETTER HVbCAPITAL LETTER IOTAdI WITH STROKE",
  "dK WITH HOOKbSMALL LETTER K WITH HOOKdL WITH BARdLAMBDA WITH STROKEbCAPITAL LETTER TURNED M",
  "dN WITH LEFT HOOKbSMALL LETTER N WITH LONG RIGHT LEGbCAPITAL LETTER O WITH MIDDLE TILDEfHORN",
  "bSMALL LETTER O WITH HORNbCAPITAL LETTER OIbSMALL LETTER OIbCAPITAL LETTER P WITH HOOK",
  "bSMALL LETTER P WITH HOOKbLETTER YRbCAPITAL LETTER TONE TWObSMALL LETTER TONE TWO",
  "bCAPITAL LETTER ESHbLETTER REVERSED ESH LOOPbSMALL LETTER T WITH PALATAL HOOK",
  "bCAPITAL LETTER T WITH HOOKbSMALL LETTER T WITH HOOKbCAPITAL LETTER T WITH RETROFLEX HOOK",
  "dU WITH HORNbSMALL LETTER U WITH HORNbCAPITAL LETTER UPSILONdV WITH HOOKdY WITH HOOK",
  "bSMALL LETTER Y WITH HOOKbCAPITAL LETTER Z WITH STROKEbSMALL LETTER Z WITH STROKE",
  "bCAPITAL LETTER EZHeREVERSEDbSMALL LETTER EZH REVERSEDeWITH TAILbLETTER TWO WITH STROKE",
  "bCAPITAL LETTER TONE FIVEbSMALL LETTER TONE FIVEbLETTER INVERTED GLOTTAL STOP WITH STROKE",
  "cWYNNcDENTAL CLICKcLATERAL CLICKcALVEOLAR CLICKcRETROFLEX CLICKbCAPITAL LETTER DZ WITH CARON",
  "dD WITH SMALL LETTER Z WITH CARONbSMALL LETTER DZ WITH CARONbCAPITAL LETTER LJ",
  "dL WITH SMALL LETTER JbSMALL LETTER LJbCAPITAL LETTER NJdN WITH SMALL LETTER J",
  "bSMALL LETTER NJbCAPITAL LETTER A WITH CARONbSMALL LETTER A WITH CARON",
  "bCAPITAL LETTER I WITH CARONbSMALL LETTER I WITH CARONbCAPITAL LETTER O WITH CARON",
  "bSMALL LETTER O WITH CARONbCAPITAL LETTER U WITH CARONbSMALL LETTER U WITH CARON",
  "bCAPITAL LETTER U WITH DIAERESIS AND MACRONbSMALL LETTER U WITH DIAERESIS AND MACRON",
  "bCAPITAL LETTER U WITH DIAERESIS AND ACUTEbSMALL LETTER U WITH DIAERESIS AND ACUTE",
  "bCAPITAL LETTER U WITH DIAERESIS AND CARONbSMALL LETTER U WITH DIAERESIS AND CARON",
  "bCAPITAL LETTER U WITH DIAERESIS AND GRAVEbSMALL LETTER U WITH DIAERESIS AND GRAVEdTURNED E",
  "bCAPITAL LETTER A WITH DIAERESIS AND MACRONbSMALL LETTER A WITH DIAERESIS AND MACRON",
  "bCAPITAL LETTER A WITH DOT ABOVE AND MACRONbSMALL LETTER A WITH DOT ABOVE AND MACRON",
  "bCAPITAL LETTER AE WITH MACRONbSMALL LETTER AE WITH MACRONbCAPITAL LETTER G WITH STROKE",
  "bSMALL LETTER G WITH STROKEbCAPITAL LETTER G WITH CARONbSMALL LETTER G WITH CARON",
  "bCAPITAL LETTER K WITH CARONbSMALL LETTER K WITH CARONbCAPITAL LETTER O WITH OGONEK",
  "bSMALL LETTER O WITH OGONEKbCAPITAL LETTER O WITH OGONEK AND MACRON",
  "bSMALL LETTER O WITH OGONEK AND MACRONbCAPITAL LETTER EZH WITH CARON",
  "bSMALL LETTER EZH WITH CARONdJ WITH CARONbCAPITAL LETTER DZdD WITH SMALL LETTER Z",
  "bSMALL LETTER DZbCAPITAL LETTER G WITH ACUTEbSMALL LETTER G WITH ACUTEbCAPITAL LETTER HWAIR",
  "dWYNNdN WITH GRAVEbSMALL LETTER N WITH GRAVEbCAPITAL LETTER A WITH RING ABOVE AND ACUTE",
  "bSMALL LETTER A WITH RING ABOVE AND ACUTEbCAPITAL LETTER AE WITH ACUTE",
  "bSMALL LETTER AE WITH ACUTEbCAPITAL LETTER O WITH STROKE AND ACUTE",
  "bSMALL LETTER O WITH STROKE AND ACUTEbCAPITAL LETTER A WITH DOUBLE GRAVE",
  "bSMALL LETTER A WITH DOUBLE GRAVEbCAPITAL LETTER A WITH INVERTED BREVE",
  "bSMALL LETTER A WITH INVERTED BREVEbCAPITAL LETTER E WITH DOUBLE GRAVE",
  "bSMALL LETTER E WITH DOUBLE GRAVEbCAPITAL LETTER E WITH INVERTED BREVE",
  "bSMALL LETTER E WITH INVERTED BREVEbCAPITAL LETTER I WITH DOUBLE GRAVE",
  "bSMALL LETTER I WITH DOUBLE GRAVEbCAPITAL LETTER I WITH INVERTED BREVE",
  "bSMALL LETTER I WITH INVERTED BREVEbCAPITAL LETTER O WITH DOUBLE GRAVE",
  "bSMALL LETTER O WITH DOUBLE GRAVEbCAPITAL LETTER O WITH INVERTED BREVE",
  "bSMALL LETTER O WITH INVERTED BREVEbCAPITAL LETTER R WITH DOUBLE GRAVE",
  "bSMALL LETTER R WITH DOUBLE GRAVEbCAPITAL LETTER R WITH INVERTED BREVE",
  "bSMALL LETTER R WITH INVERTED BREVEbCAPITAL LETTER U WITH DOUBLE GRAVE",
  "bSMALL LETTER U WITH DOUBLE GRAVEbCAPITAL LETTER U WITH INVERTED BREVE",
  "bSMALL LETTER U WITH INVERTED BREVEbCAPITAL LETTER S WITH COMMA BELOW",
  "bSMALL LETTER S WITH COMMA BELOWbCAPITAL LETTER T WITH COMMA BELOW",
  "bSMALL LETTER T WITH COMMA BELOWbCAPITAL LETTER YOGHbSMALL LETTER YOGH",
  "bCAPITAL LETTER H WITH CARONbSMALL LETTER H WITH CARONbCAPITAL LETTER N WITH LONG RIGHT LEG",
  "bSMALL LETTER D WITH CURLbCAPITAL LETTER OUbSMALL LETTER OUbCAPITAL LETTER Z WITH HOOK",
  "bSMALL LETTER Z WITH HOOKbCAPITAL LETTER A WITH DOT ABOVEbSMALL LETTER A WITH DOT ABOVE",
  "bCAPITAL LETTER E WITH CEDILLAbSMALL LETTER E WITH CEDILLA",
  "bCAPITAL LETTER O WITH DIAERESIS AND MACRONbSMALL LETTER O WITH DIAERESIS AND MACRON",
  "bCAPITAL LETTER O WITH TILDE AND MACRONbSMALL LETTER O WITH TILDE AND MACRON",
  "bCAPITAL LETTER O WITH DOT ABOVEbSMALL LETTER O WITH DOT ABOVE",
  "bCAPITAL LETTER O WITH DOT ABOVE AND MACRONbSMALL LETTER O WITH DOT ABOVE AND MACRON",
  "bCAPITAL LETTER Y WITH MACRONbSMALL LETTER Y WITH MACRONdL WITH CURLdN WITH CURLdT WITH CURL",
  "dDOTLESS JdDB DIGRAPHdQP DIGRAPHbCAPITAL LETTER A WITH STROKEdC WITH STROKE",
  "bSMALL LETTER C WITH STROKEbCAPITAL LETTER L WITH BARdT WITH DIAGONAL STROKE",
  "bSMALL LETTER S WITH SWASH TAILdZ WITH SWASH TAILbCAPITAL LETTER GLOTTAL STOP",
  "bSMALL LETTER GLOTTAL STOPbCAPITAL LETTER B WITH STROKEdU BARdTURNED VdE WITH STROKE",
  "bSMALL LETTER E WITH STROKEbCAPITAL LETTER J WITH STROKEbSMALL LETTER J WITH STROKE",
  "bCAPITAL LETTER SMALL Q WITH HOOK TAILbSMALL LETTER Q WITH HOOK TAIL",
  "bCAPITAL LETTER R WITH STROKEbSMALL LETTER R WITH STROKEbCAPITAL LETTER Y WITH STROKE",
  "bSMALL LETTER Y WITH STROKEdTURNED AdALPHAdTURNED ALPHAdB WITH HOOKdOPEN OdC WITH CURL",
  "dD WITH TAILfHOOKdREVERSED EdSCHWAeWITH HOOKdOPEN EdREVERSED OPEN EgWITH HOOK",
  "dCLOSED REVERSED OPEN EdDOTLESS J WITH STROKEdG WITH HOOKdSCRIPT GbLETTER SMALL CAPITAL G",
  "bSMALL LETTER GAMMAdRAMS HORNdTURNED HdH WITH HOOKdHENG WITH HOOKdI WITH STROKEdIOTA",
  "bLETTER SMALL CAPITAL IbSMALL LETTER L WITH MIDDLE TILDEfBELTfRETROFLEX HOOKdLEZHdTURNED M",
  "fWITH LONG LEGdM WITH HOOKdN WITH LEFT HOOKfRETROFLEX HOOKbLETTER SMALL CAPITAL N",
  "bSMALL LETTER BARRED ObLETTER SMALL CAPITAL OEbSMALL LETTER CLOSED OMEGAdPHIdTURNED R",
  "fWITH LONG LEGgHOOKdR WITH LONG LEGfTAILfFISHHOOKdREVERSED R WITH FISHHOOK",
  "bLETTER SMALL CAPITAL ReINVERTED RbSMALL LETTER S WITH HOOKdESH",
  "dDOTLESS J WITH STROKE AND HOOKdSQUAT REVERSED ESHdESH WITH CURLdTURNED T",
  "dT WITH RETROFLEX HOOKdU BARdUPSILONdV WITH HOOKdTURNED VeWeYbLETTER SMALL CAPITAL Y",
  "bSMALL LETTER Z WITH RETROFLEX HOOKfCURLdEZHeWITH CURLbLETTER GLOTTAL STOP",
  "cPHARYNGEAL VOICED FRICATIVEcINVERTED GLOTTAL STOPcSTRETCHED CcBILABIAL CLICK",
  "cSMALL CAPITAL BbSMALL LETTER CLOSED OPEN EbLETTER SMALL CAPITAL G WITH HOOKeH",
  "bSMALL LETTER J WITH CROSSED-TAILdTURNED KbLETTER SMALL CAPITAL LbSMALL LETTER Q WITH HOOK",
  "bLETTER GLOTTAL STOP WITH STROKEcREVERSED GLOTTAL STOP WITH STROKEbSMALL LETTER DZ DIGRAPH",
  "dDEZH DIGRAPHdDZ DIGRAPH WITH CURLdTS DIGRAPHdTESH DIGRAPHdTC DIGRAPH WITH CURLdFENG DIGRAPH",
  "dLS DIGRAPHdLZ DIGRAPHbLETTER BILABIAL PERCUSSIVEcBIDENTAL PERCUSSIVE",
  "bSMALL LETTER TURNED H WITH FISHHOOKhAND TAILaMODIFIER LETTER SMALL HeWITH HOOKdJdRdTURNED R",
  "fWITH HOOKdCAPITAL INVERTED RdWdYcPRIMEcDOUBLE PRIMEcTURNED COMMAcAPOSTROPHEcREVERSED COMMA",
  "cRIGHT HALF RINGcLEFT HALF RINGcGLOTTAL STOPcREVERSED GLOTTAL STOPcLEFT ARROWHEAD",
  "cRIGHT ARROWHEADcUP ARROWHEADcDOWN ARROWHEADcCIRCUMFLEX ACCENTaCARON",
  "aMODIFIER LETTER VERTICAL LINEcMACRONcACUTE ACCENTcGRAVE ACCENTcLOW VERTICAL LINEdMACRON",
  "dGRAVE ACCENTdACUTE ACCENTcTRIANGULAR COLONcHALF TRIANGULAR COLONcCENTRED RIGHT HALF RING",
  "dLEFT HALF RINGcUP TACKcDOWN TACKcPLUS SIGNcMINUS SIGNaBREVEaDOT ABOVEaRING ABOVEaOGONEK",
  "aSMALL TILDEaDOUBLE ACUTE ACCENTaMODIFIER LETTER RHOTIC HOOKcCROSS ACCENTcSMALL GAMMAdLdSdX",
  "dREVERSED GLOTTAL STOPcEXTRA-HIGH TONE BARcHIGH TONE BARcMID TONE BARcLOW TONE BAR",
  "cEXTRA-LOW TONE BARcYIN DEPARTING TONE MARKcYANG DEPARTING TONE MARKcVOICINGcUNASPIRATED",
  "cDOUBLE APOSTROPHEcLOW DOWN ARROWHEADdUP ARROWHEADdLEFT ARROWHEADdRIGHT ARROWHEADdRING",
  "cMIDDLE GRAVE ACCENTdDOUBLE GRAVE ACCENTeACUTE ACCENTcLOW TILDEcRAISED COLONcBEGIN HIGH TONE",
  "cEND HIGH TONEcBEGIN LOW TONEcEND LOW TONEcSHELFcOPEN SHELFcLOW LEFT ARROW",
  "aCOMBINING GRAVE ACCENTbACUTE ACCENTbCIRCUMFLEX ACCENTbTILDEbMACRONbOVERLINEbBREVEbDOT ABOVE",
  "bDIAERESISbHOOK ABOVEbRING ABOVEbDOUBLE ACUTE ACCENTbCARONbVERTICAL LINE ABOVE",
  "bDOUBLE VERTICAL LINE ABOVEcGRAVE ACCENTbCANDRABINDUbINVERTED BREVEbTURNED COMMA ABOVE",
  "bCOMMA ABOVEbREVERSED COMMA ABOVEbCOMMA ABOVE RIGHTbGRAVE ACCENT BELOWbACUTE ACCENT BELOW",
  "bLEFT TACK BELOWbRIGHT TACK BELOWbLEFT ANGLE ABOVEbHORNbLEFT HALF RING BELOWbUP TACK BELOW",
  "bDOWN TACK BELOWbPLUS SIGN BELOWbMINUS SIGN BELOWbPALATALIZED HOOK BELOW",
  "bRETROFLEX HOOK BELOWbDOT BELOWbDIAERESIS BELOWbRING BELOWbCOMMA BELOWbCEDILLAbOGONEK",
  "bVERTICAL LINE BELOWbBRIDGE BELOWbINVERTED DOUBLE ARCH BELOWbCARON BELOW",
  "bCIRCUMFLEX ACCENT BELOWbBREVE BELOWbINVERTED BREVE BELOWbTILDE BELOWbMACRON BELOWbLOW LINE",
  "bDOUBLE LOW LINEbTILDE OVERLAYbSHORT STROKE OVERLAYbLONG STROKE OVERLAY",
  "bSHORT SOLIDUS OVERLAYbLONG SOLIDUS OVERLAYbRIGHT HALF RING BELOWbINVERTED BRIDGE BELOW",
  "bSQUARE BELOWbSEAGULL BELOWbX ABOVEbVERTICAL TILDEbDOUBLE OVERLINEbGRAVE TONE MARK",
  "bACUTE TONE MARKbGREEK PERISPOMENIcKORONIScDIALYTIKA TONOScYPOGEGRAMMENIbBRIDGE ABOVE",
  "bEQUALS SIGN BELOWbDOUBLE VERTICAL LINE BELOWbLEFT ANGLE BELOWbNOT TILDE ABOVE",
  "bHOMOTHETIC ABOVEbALMOST EQUAL TO ABOVEbLEFT RIGHT ARROW BELOWbUPWARDS ARROW BELOW",
  "bGRAPHEME JOINERbRIGHT ARROWHEAD ABOVEbLEFT HALF RING ABOVEbFERMATAbX BELOW",
  "bLEFT ARROWHEAD BELOWbRIGHT ARROWHEAD BELOWdAND UP ARROWHEAD BELOWcHALF RING ABOVE",
  "bDOT ABOVE RIGHTbASTERISK BELOWbDOUBLE RING BELOWbZIGZAG ABOVEbDOUBLE BREVE BELOWcBREVE",
  "cMACRONdBELOWcTILDEcINVERTED BREVEcRIGHTWARDS ARROW BELOWbLATIN SMALL LETTER AeEeIeOeUeCeDeH",
  "eMeReTeVeXaGREEK CAPITAL LETTER HETAbSMALL LETTER HETAbCAPITAL LETTER ARCHAIC SAMPI",
  "bSMALL LETTER ARCHAIC SAMPIbNUMERAL SIGNbLOWER NUMERAL SIGN",
  "bCAPITAL LETTER PAMPHYLIAN DIGAMMAbSMALL LETTER PAMPHYLIAN DIGAMMA:37AbYPOGEGRAMMENI",
  "bSMALL REVERSED LUNATE SIGMA SYMBOLcDOTTED LUNATE SIGMA SYMBOL",
  "cREVERSED DOTTED LUNATE SIGMA SYMBOLbQUESTION MARKbCAPITAL LETTER YOT:384bTONOS",
  "bDIALYTIKA TONOSbCAPITAL LETTER ALPHA WITH TONOSbANO TELEIA",
  "bCAPITAL LETTER EPSILON WITH TONOSdETA WITH TONOSdIOTA WITH TONOS:38CdOMICRON WITH TONOS",
  ":38EdUPSILON WITH TONOSdOMEGA WITH TONOSbSMALL LETTER IOTA WITH DIALYTIKA AND TONOS",
  "bCAPITAL LETTER ALPHAdBETAdGAMMAdDELTAdEPSILONdZETAdETAdTHETAdIOTAdKAPPAdLAMDAdMUdNUdXI",
  "dOMICRONdPIdRHO:3A3dSIGMAdTAUdUPSILONdPHIdCHIdPSIdOMEGAdIOTA WITH DIALYTIKA",
  "dUPSILON WITH DIALYTIKAbSMALL LETTER ALPHA WITH TONOSdEPSILON WITH TONOSdETA WITH TONOS",
  "dIOTA WITH TONOSdUPSILON WITH DIALYTIKA AND TONOSdALPHAdBETAdGAMMAdDELTAdEPSILONdZETAdETA",
  "dTHETAdIOTAdKAPPAdLAMDAdMUdNUdXIdOMICRONdPIdRHOdFINAL SIGMAdSIGMAdTAUdUPSILONdPHIdCHIdPSI",
  "dOMEGAdIOTA WITH DIALYTIKAdUPSILON WITH DIALYTIKAdOMICRON WITH TONOSdUPSILON WITH TONOS",
  "dOMEGA WITH TONOSbCAPITAL KAI SYMBOLbBETA SYMBOLbTHETA SYMBOLbUPSILON WITH HOOK SYMBOL",
  "dACUTE AND HOOK SYMBOLdDIAERESIS AND HOOK SYMBOLbPHI SYMBOLbPI SYMBOLbKAI SYMBOL",
  "bLETTER ARCHAIC KOPPAbSMALL LETTER ARCHAIC KOPPAbLETTER STIGMAbSMALL LETTER STIGMA",
  "bLETTER DIGAMMAbSMALL LETTER DIGAMMAbLETTER KOPPAbSMALL LETTER KOPPAbLETTER SAMPI",
  "bSMALL LETTER SAMPIaCOPTIC CAPITAL LETTER SHEIbSMALL LETTER SHEIbCAPITAL LETTER FEI",
  "bSMALL LETTER FEIbCAPITAL LETTER KHEIbSMALL LETTER KHEIbCAPITAL LETTER HORI",
  "bSMALL LETTER HORIbCAPITAL LETTER GANGIAbSMALL LETTER GANGIAbCAPITAL LETTER SHIMA",
  "bSMALL LETTER SHIMAbCAPITAL LETTER DEIbSMALL LETTER DEIaGREEK KAPPA SYMBOLbRHO SYMBOL",
  "bLUNATE SIGMA SYMBOLbLETTER YOTbCAPITAL THETA SYMBOLbLUNATE EPSILON SYMBOL",
  "bREVERSED LUNATE EPSILON SYMBOLbCAPITAL LETTER SHObSMALL LETTER SHO",
  "bCAPITAL LUNATE SIGMA SYMBOLcLETTER SANbSMALL LETTER SANbRHO WITH STROKE SYMBOL",
  "bCAPITAL REVERSED LUNATE SIGMA SYMBOLcDOTTED LUNATE SIGMA SYMBOL",
  "cREVERSED DOTTED LUNATE SIGMA SYMBOLaCYRILLIC CAPITAL LETTER IE WITH GRAVEdIOdDJEdGJE",
  "dUKRAINIAN IEdDZEdBYELORUSSIAN-UKRAINIAN IdYIdJEdLJEdNJEdTSHEdKJEdI WITH GRAVEdSHORT UdDZHE",
  "dAdBEdVEdGHEdDEdIEdZHEdZEdIdSHORT IdKAdELdEMdENdOdPEdERdESdTEdUdEFdHAdTSEdCHEdSHAdSHCHA",
  "dHARD SIGNdYERUdSOFT SIGNdEdYUdYAbSMALL LETTER AdBEdVEdGHEdDEdIEdZHEdZEdIdSHORT IdKAdELdEM",
  "dENdOdPEdERdESdTEdUdEFdHAdTSEdCHEdSHAdSHCHAdHARD SIGNdYERUdSOFT SIGNdEdYUdYAdIE WITH GRAVE",
  "dIOdDJEdGJEdUKRAINIAN IEdDZEdBYELORUSSIAN-UKRAINIAN IdYIdJEdLJEdNJEdTSHEdKJEdI WITH GRAVE",
  "dSHORT UdDZHEbCAPITAL LETTER OMEGAbSMALL LETTER OMEGAbCAPITAL LETTER YATbSMALL LETTER YAT",
  "bCAPITAL LETTER IOTIFIED EbSMALL LETTER IOTIFIED EbCAPITAL LETTER LITTLE YUS",
  "bSMALL LETTER LITTLE YUSbCAPITAL LETTER IOTIFIED LITTLE YUSbSMALL LETTER IOTIFIED LITTLE YUS",
  "bCAPITAL LETTER BIG YUSbSMALL LETTER BIG YUSbCAPITAL LETTER IOTIFIED BIG YUS",
  "bSMALL LETTER IOTIFIED BIG YUSbCAPITAL LETTER KSIbSMALL LETTER KSIbCAPITAL LETTER PSI",
  "bSMALL LETTER PSIbCAPITAL LETTER FITAbSMALL LETTER FITAbCAPITAL LETTER IZHITSA",
  "bSMALL LETTER IZHITSAbCAPITAL LETTER IZHITSA WITH DOUBLE GRAVE ACCENT",
  "bSMALL LETTER IZHITSA WITH DOUBLE GRAVE ACCENTbCAPITAL LETTER UKbSMALL LETTER UK",
  "bCAPITAL LETTER ROUND OMEGAbSMALL LETTER ROUND OMEGAbCAPITAL LETTER OMEGA WITH TITLO",
  "bSMALL LETTER OMEGA WITH TITLObCAPITAL LETTER OTbSMALL LETTER OTbCAPITAL LETTER KOPPA",
  "bSMALL LETTER KOPPAbTHOUSANDS SIGNaCOMBINING CYRILLIC TITLOcPALATALIZATIONcDASIA PNEUMATA",
  "cPSILI PNEUMATAcPOKRYTIEcHUNDRED THOUSANDS SIGNcMILLIONS SIGN",
  "aCYRILLIC CAPITAL LETTER SHORT I WITH TAILbSMALL LETTER SHORT I WITH TAIL",
  "bCAPITAL LETTER SEMISOFT SIGNbSMALL LETTER SEMISOFT SIGNbCAPITAL LETTER ER WITH TICK",
  "bSMALL LETTER ER WITH TICKbCAPITAL LETTER GHE WITH UPTURNbSMALL LETTER GHE WITH UPTURN",
  "bCAPITAL LETTER GHE WITH STROKEbSMALL LETTER GHE WITH STROKE",
  "bCAPITAL LETTER GHE WITH MIDDLE HOOKbSMALL LETTER GHE WITH MIDDLE HOOK",
  "bCAPITAL LETTER ZHE WITH DESCENDERbSMALL LETTER ZHE WITH DESCENDER",
  "bCAPITAL LETTER ZE WITH DESCENDERbSMALL LETTER ZE WITH DESCENDER",
  "bCAPITAL LETTER KA WITH DESCENDERbSMALL LETTER KA WITH DESCENDER",
  "bCAPITAL LETTER KA WITH VERTICAL STROKEbSMALL LETTER KA WITH VERTICAL STROKE",
  "bCAPITAL LETTER KA WITH STROKEbSMALL LETTER KA WITH STROKEbCAPITAL LETTER BASHKIR KA",
  "bSMALL LETTER BASHKIR KAbCAPITAL LETTER EN WITH DESCENDERbSMALL LETTER EN WITH DESCENDER",
  "bCAPITAL LIGATURE EN GHEbSMALL LIGATURE EN GHEbCAPITAL LETTER PE WITH MIDDLE HOOK",
  "bSMALL LETTER PE WITH MIDDLE HOOKbCAPITAL LETTER ABKHASIAN HAbSMALL LETTER ABKHASIAN HA",
  "bCAPITAL LETTER ES WITH DESCENDERbSMALL LETTER ES WITH DESCENDER",
  "bCAPITAL LETTER TE WITH DESCENDERbSMALL LETTER TE WITH DESCENDERbCAPITAL LETTER STRAIGHT U",
  "bSMALL LETTER STRAIGHT UbCAPITAL LETTER STRAIGHT U WITH STROKE",
  "bSMALL LETTER STRAIGHT U WITH STROKEbCAPITAL LETTER HA WITH DESCENDER",
  "bSMALL LETTER HA WITH DESCENDERbCAPITAL LIGATURE TE TSEbSMALL LIGATURE TE TSE",
  "bCAPITAL LETTER CHE WITH DESCENDERbSMALL LETTER CHE WITH DESCENDER",
  "bCAPITAL LETTER CHE WITH VERTICAL STROKEbSMALL LETTER CHE WITH VERTICAL STROKE",
  "bCAPITAL LETTER SHHAbSMALL LETTER SHHAbCAPITAL LETTER ABKHASIAN CHE",
  "bSMALL LETTER ABKHASIAN CHEbCAPITAL LETTER ABKHASIAN CHE WITH DESCENDER",
  "bSMALL LETTER ABKHASIAN CHE WITH DESCENDERbLETTER PALOCHKAbCAPITAL LETTER ZHE WITH BREVE",
  "bSMALL LETTER ZHE WITH BREVEbCAPITAL LETTER KA WITH HOOKbSMALL LETTER KA WITH HOOK",
  "bCAPITAL LETTER EL WITH TAILbSMALL LETTER EL WITH TAILbCAPITAL LETTER EN WITH HOOK",
  "bSMALL LETTER EN WITH HOOKbCAPITAL LETTER EN WITH TAILbSMALL LETTER EN WITH TAIL",
  "bCAPITAL LETTER KHAKASSIAN CHEbSMALL LETTER KHAKASSIAN CHEbCAPITAL LETTER EM WITH TAIL",
  "bSMALL LETTER EM WITH TAILdPALOCHKAbCAPITAL LETTER A WITH BREVEbSMALL LETTER A WITH BREVE",
  "bCAPITAL LETTER A WITH DIAERESISbSMALL LETTER A WITH DIAERESISbCAPITAL LIGATURE A IE",
  "bSMALL LIGATURE A IEbCAPITAL LETTER IE WITH BREVEbSMALL LETTER IE WITH BREVE",
  "bCAPITAL LETTER SCHWAbSMALL LETTER SCHWAbCAPITAL LETTER SCHWA WITH DIAERESIS",
  "bSMALL LETTER SCHWA WITH DIAERESISbCAPITAL LETTER ZHE WITH DIAERESIS",
  "bSMALL LETTER ZHE WITH DIAERESISbCAPITAL LETTER ZE WITH DIAERESIS",
  "bSMALL LETTER ZE WITH DIAERESISbCAPITAL LETTER ABKHASIAN DZEbSMALL LETTER ABKHASIAN DZE",
  "bCAPITAL LETTER I WITH MACRONbSMALL LETTER I WITH MACRONbCAPITAL LETTER I WITH DIAERESIS",
  "bSMALL LETTER I WITH DIAERESISbCAPITAL LETTER O WITH DIAERESISbSMALL LETTER O WITH DIAERESIS",
  "bCAPITAL LETTER BARRED ObSMALL LETTER BARRED ObCAPITAL LETTER BARRED O WITH DIAERESIS",
  "bSMALL LETTER BARRED O WITH DIAERESISbCAPITAL LETTER E WITH DIAERESIS",
  "bSMALL LETTER E WITH DIAERESISbCAPITAL LETTER U WITH MACRONbSMALL LETTER U WITH MACRON",
  "bCAPITAL LETTER U WITH DIAERESISbSMALL LETTER U WITH DIAERESIS",
  "bCAPITAL LETTER U WITH DOUBLE ACUTEbSMALL LETTER U WITH DOUBLE ACUTE",
  "bCAPITAL LETTER CHE WITH DIAERESISbSMALL LETTER CHE WITH DIAERESIS",
  "bCAPITAL LETTER GHE WITH DESCENDERbSMALL LETTER GHE WITH DESCENDER",
  "bCAPITAL LETTER YERU WITH DIAERESISbSMALL LETTER YERU WITH DIAERESIS",
  "bCAPITAL LETTER GHE WITH STROKE AND HOOKbSMALL LETTER GHE WITH STROKE AND HOOK",
  "bCAPITAL LETTER HA WITH HOOKbSMALL LETTER HA WITH HOOKbCAPITAL LETTER HA WITH STROKE",
  "bSMALL LETTER HA WITH STROKEbCAPITAL LETTER KOMI DEbSMALL LETTER KOMI DE",
  "bCAPITAL LETTER KOMI DJEbSMALL LETTER KOMI DJEbCAPITAL LETTER KOMI ZJEbSMALL LETTER KOMI ZJE",
  "bCAPITAL LETTER KOMI DZJEbSMALL LETTER KOMI DZJEbCAPITAL LETTER KOMI LJE",
  "bSMALL LETTER KOMI LJEbCAPITAL LETTER KOMI NJEbSMALL LETTER KOMI NJEbCAPITAL LETTER KOMI SJE",
  "bSMALL LETTER KOMI SJEbCAPITAL LETTER KOMI TJEbSMALL LETTER KOMI TJE",
  "bCAPITAL LETTER REVERSED ZEbSMALL LETTER REVERSED ZEbCAPITAL LETTER EL WITH HOOK",
  "bSMALL LETTER EL WITH HOOKbCAPITAL LETTER LHAbSMALL LETTER LHAbCAPITAL LETTER RHA",
  "bSMALL LETTER RHAbCAPITAL LETTER YAEbSMALL LETTER YAEbCAPITAL LETTER QAbSMALL LETTER QA",
  "bCAPITAL LETTER WEbSMALL LETTER WEbCAPITAL LETTER ALEUT KAbSMALL LETTER ALEUT KA",
  "bCAPITAL LETTER EL WITH MIDDLE HOOKbSMALL LETTER EL WITH MIDDLE HOOK",
  "bCAPITAL LETTER EN WITH MIDDLE HOOKbSMALL LETTER EN WITH MIDDLE HOOK",
  "bCAPITAL LETTER PE WITH DESCENDERbSMALL LETTER PE WITH DESCENDER",
  "bCAPITAL LETTER SHHA WITH DESCENDERbSMALL LETTER SHHA WITH DESCENDER",
  "bCAPITAL LETTER EN WITH LEFT HOOKbSMALL LETTER EN WITH LEFT HOOKbCAPITAL LETTER DZZHE",
  "bSMALL LETTER DZZHEbCAPITAL LETTER DCHEbSMALL LETTER DCHEbCAPITAL LETTER EL WITH DESCENDER",
  "bSMALL LETTER EL WITH DESCENDER:531aARMENIAN CAPITAL LETTER AYBdBENdGIMdDAdECHdZAdEHdETdTO",
  "dZHEdINIdLIWNdXEHdCAdKENdHOdJAdGHADdCHEHdMENdYIdNOWdSHAdVOdCHAdPEHdJHEHdRAdSEHdVEWdTIWNdREH",
  "dCOdYIWNdPIWRdKEHdOHdFEH:559bMODIFIER LETTER LEFT HALF RINGbAPOSTROPHEbEMPHASIS MARK",
  "bEXCLAMATION MARKbCOMMAbQUESTION MARKbABBREVIATION MARKbSMALL LETTER TURNED AYBdAYBdBENdGIM",
  "dDAdECHdZAdEHdETdTOdZHEdINIdLIWNdXEHdCAdKENdHOdJAdGHADdCHEHdMENdYIdNOWdSHAdVOdCHAdPEHdJHEH",
  "dRAdSEHdVEWdTIWNdREHdCOdYIWNdPIWRdKEHdOHdFEHcLIGATURE ECH YIWNcLETTER YI WITH STROKE",
  "bFULL STOPbHYPHEN:58DaRIGHT-FACING ARMENIAN ETERNITY SIGNaLEFT-FACING ARMENIAN ETERNITY SIGN",
  "aARMENIAN DRAM SIGN:591aHEBREW ACCENT ETNAHTAcSEGOLcSHALSHELETcZAQEF QATANdGADOLcTIPEHA",
  "cREVIAcZARQAcPASHTAcYETIVcTEVIRcGERESHdMUQDAMcGERSHAYIMcQARNEY PARAcTELISHA GEDOLAcPAZER",
  "cATNAH HAFUKHcMUNAHcMAHAPAKHcMERKHAdKEFULAcDARGAcQADMAcTELISHA QETANAcYERAH BEN YOMOcOLE",
  "cILUYcDEHIcZINORbMARK MASORA CIRCLEbPOINT SHEVAcHATAF SEGOLdPATAHdQAMATScHIRIQcTSEREcSEGOL",
  "cPATAHcQAMATScHOLAMdHASER FOR VAVcQUBUTScDAGESH OR MAPIQcMETEGbPUNCTUATION MAQAFbPOINT RAFE",
  "bPUNCTUATION PASEQbPOINT SHIN DOTcSIN DOTbPUNCTUATION SOF PASUQbMARK UPPER DOTcLOWER DOT",
  "bPUNCTUATION NUN HAFUKHAbPOINT QAMATS QATAN:5D0bLETTER ALEFcBETcGIMELcDALETcHEcVAVcZAYINcHET",
  "cTETcYODcFINAL KAFcKAFcLAMEDcFINAL MEMcMEMcFINAL NUNcNUNcSAMEKHcAYINcFINAL PEcPEcFINAL TSADI",
  "cTSADIcQOFcRESHcSHINcTAV:5EFbYOD TRIANGLEbLIGATURE YIDDISH DOUBLE VAVdVAV YODdDOUBLE YOD",
  "bPUNCTUATION GERESHcGERSHAYIM:600aARABIC NUMBER SIGNbSIGN SANAHbFOOTNOTE MARKERbSIGN SAFHA",
  "cSAMVATbNUMBER MARK ABOVEaARABIC-INDIC CUBE ROOTbFOURTH ROOTaARABIC RAY",
  "aARABIC-INDIC PER MILLE SIGNcTEN THOUSAND SIGNaAFGHANI SIGNaARABIC COMMAbDATE SEPARATOR",
  "bPOETIC VERSE SIGNbSIGN MISRAcSALLALLAHOU ALAYHE WASSALLAMcALAYHE ASSALLAM",
  "cRAHMATULLAH ALAYHEcRADI ALLAHOU ANHUcTAKHALLUSbSMALL HIGH TAH",
  "dLIGATURE ALEF WITH LAM WITH YEHdZAINcFATHAcDAMMAcKASRAbSEMICOLONbLETTER MARK",
  "bEND OF TEXT MARKbTRIPLE DOT PUNCTUATION MARKbQUESTION MARKbLETTER KASHMIRI YEHcHAMZA",
  "cALEF WITH MADDA ABOVEeHAMZA ABOVEcWAW WITH HAMZA ABOVEcALEF WITH HAMZA BELOW",
  "cYEH WITH HAMZA ABOVEcALEFcBEHcTEH MARBUTAcTEHcTHEHcJEEMcHAHcKHAHcDALcTHALcREHcZAINcSEEN",
  "cSHEENcSADcDADcTAHcZAHcAINcGHAINcKEHEH WITH TWO DOTS ABOVEeTHREE DOTS BELOW",
  "cFARSI YEH WITH INVERTED VfTWO DOTS ABOVEfTHREE DOTS ABOVEbTATWEELbLETTER FEHcQAFcKAFcLAM",
  "cMEEMcNOONcHEHcWAWcALEF MAKSURAcYEHbFATHATANbDAMMATANbKASRATANbFATHAbDAMMAbKASRAbSHADDA",
  "bSUKUNbMADDAH ABOVEbHAMZA ABOVEcBELOWbSUBSCRIPT ALEFbINVERTED DAMMAbMARK NOON GHUNNA",
  "bZWARAKAYbVOWEL SIGN SMALL V ABOVEdINVERTED SMALL V ABOVEdDOT BELOWbREVERSED DAMMA",
  "bFATHA WITH TWO DOTSbWAVY HAMZA BELOWaARABIC-INDIC DIGIT ZEROcONEcTWOcTHREEcFOURcFIVEcSIX",
  "cSEVENcEIGHTcNINEaARABIC PERCENT SIGNbDECIMAL SEPARATORbTHOUSANDS SEPARATOR",
  "bFIVE POINTED STARbLETTER DOTLESS BEHdQAFcSUPERSCRIPT ALEFcALEF WASLAdWITH WAVY HAMZA ABOVE",
  "gBELOWcHIGH HAMZAeALEFeWAWcU WITH HAMZA ABOVEcHIGH HAMZA YEHcTTEHcTTEHEHcBEEHcTEH WITH RING",
  "eTHREE DOTS ABOVE DOWNWARDScPEHcTEHEHcBEHEHcHAH WITH HAMZA ABOVEeTWO DOTS VERTICAL ABOVE",
  "cNYEHcDYEHcHAH WITH THREE DOTS ABOVEcTCHEHcTCHEHEHcDDALcDAL WITH RINGeDOT BELOW",
  "gAND SMALL TAHcDAHALcDDAHALcDULcDAL WITH THREE DOTS ABOVE DOWNWARDSeFOUR DOTS ABOVEcRREH",
  "cREH WITH SMALL VeRINGeDOT BELOWeSMALL V BELOWeDOT BELOW AND DOT ABOVEeTWO DOTS ABOVEcJEH",
  "cREH WITH FOUR DOTS ABOVEcSEEN WITH DOT BELOW AND DOT ABOVEeTHREE DOTS BELOW",
  "hAND THREE DOTS ABOVEcSAD WITH TWO DOTS BELOWeTHREE DOTS ABOVEcTAH WITH THREE DOTS ABOVE",
  "cAIN WITH THREE DOTS ABOVEcDOTLESS FEHcFEH WITH DOT MOVED BELOWfBELOWcVEH",
  "cFEH WITH THREE DOTS BELOWcPEHEHcQAF WITH DOT ABOVEeTHREE DOTS ABOVEcKEHEHcSWASH KAF",
  "cKAF WITH RINGeDOT ABOVEcNGcKAF WITH THREE DOTS BELOWcGAFdWITH RINGcNGOEH",
  "cGAF WITH TWO DOTS BELOWcGUEHcGAF WITH THREE DOTS ABOVEcLAM WITH SMALL VeDOT ABOVE",
  "eTHREE DOTS ABOVEgBELOWcNOON WITH DOT BELOWdGHUNNAcRNOONcNOON WITH RINGeTHREE DOTS ABOVE",
  "cHEH DOACHASHMEEcTCHEH WITH DOT ABOVEcHEH WITH YEH ABOVEdGOALeWITH HAMZA ABOVE",
  "cTEH MARBUTA GOALcWAW WITH RINGcKIRGHIZ OEcOEcUcYUcKIRGHIZ YUcWAW WITH TWO DOTS ABOVEcVE",
  "cFARSI YEHcYEH WITH TAILeSMALL VcWAW WITH DOT ABOVEcEcYEH WITH THREE DOTS BELOWdBARREE",
  "eWITH HAMZA ABOVEbFULL STOPbLETTER AEbSMALL HIGH LIGATURE SAD WITH LAM WITH ALEF MAKSURA",
  "eQAF WITH LAM WITH ALEF MAKSURAdMEEM INITIAL FORMdLAM ALEFdJEEMdTHREE DOTSdSEENbEND OF AYAH",
  "bSTART OF RUB EL HIZBbSMALL HIGH ROUNDED ZEROdUPRIGHT RECTANGULAR ZEROdDOTLESS HEAD OF KHAH",
  "dMEEM ISOLATED FORMcLOW SEENcHIGH MADDAcWAWcYEHcHIGH YEHdNOONbPLACE OF SAJDAH",
  "bEMPTY CENTRE LOW STOPdHIGH STOPbROUNDED HIGH STOP WITH FILLED CENTREbSMALL LOW MEEM",
  "bLETTER DAL WITH INVERTED VcREH WITH INVERTED VaEXTENDED ARABIC-INDIC DIGIT ZEROdONEdTWO",
  "dTHREEdFOURdFIVEdSIXdSEVENdEIGHTdNINEaARABIC LETTER SHEEN WITH DOT BELOWcDAD WITH DOT BELOW",
  "cGHAIN WITH DOT BELOWbSIGN SINDHI AMPERSANDdPOSTPOSITION MENbLETTER HEH WITH INVERTED V",
  "aSYRIAC END OF PARAGRAPHbSUPRALINEAR FULL STOPbSUBLINEAR FULL STOPbSUPRALINEAR COLON",
  "bSUBLINEAR COLONbHORIZONTAL COLONbCOLON SKEWED LEFTdRIGHTbSUPRALINEAR COLON SKEWED LEFT",
  "bSUBLINEAR COLON SKEWED RIGHTbCONTRACTIONbHARKLEAN OBELUScMETOBELUScASTERISCUS",
  ":70FbABBREVIATION MARKbLETTER ALAPHcSUPERSCRIPT ALAPHcBETHcGAMALdGARSHUNIcDALATH",
  "cDOTLESS DALATH RISHcHEcWAWcZAINcHETHcTETHdGARSHUNIcYUDHdHEcKAPHcLAMADHcMIMcNUNcSEMKATH",
  "cFINAL SEMKATHcEcPEcREVERSED PEcSADHEcQAPHcRISHcSHINcTAWcPERSIAN BHETHdGHAMALdDHALATH",
  "bPTHAHA ABOVEcBELOWcDOTTEDbZQAPHA ABOVEcBELOWcDOTTEDbRBASA ABOVEcBELOW",
  "bDOTTED ZLAMA HORIZONTALdANGULARbHBASA ABOVEcBELOWbHBASA-ESASA DOTTEDbESASA ABOVEcBELOW",
  "bRWAHAbFEMININE DOTbQUSHSHAYAbRUKKAKHAbTWO VERTICAL DOTS ABOVEeBELOWbTHREE DOTS ABOVEdBELOW",
  "bOBLIQUE LINE ABOVEdBELOWbMUSICbBARREKH:74DbLETTER SOGDIAN ZHAINdKHAPHdFE",
  "aARABIC LETTER BEH WITH THREE DOTS HORIZONTALLY BELOWeDOT BELOW AND THREE DOTS ABOVE",
  "eTHREE DOTS POINTING UPWARDS BELOWjAND TWO DOTS ABOVEeTWO DOTS BELOW AND DOT ABOVE",
  "eINVERTED SMALL V BELOWeSMALL VcHAH WITH TWO DOTS ABOVEeTHREE DOTS POINTING UPWARDS BELOW",
  "cDAL WITH TWO DOTS VERTICALLY BELOW AND SMALL TAHeINVERTED SMALL V BELOWcREH WITH STROKE",
  "cSEEN WITH FOUR DOTS ABOVEcAIN WITH TWO DOTS ABOVEeTHREE DOTS POINTING DOWNWARDS ABOVE",
  "eTWO DOTS VERTICALLY ABOVEcFEH WITH TWO DOTS BELOWeTHREE DOTS POINTING UPWARDS BELOW",
  "cKEHEH WITH DOT ABOVEeTHREE DOTS ABOVEgPOINTING UPWARDS BELOWcMEEM WITH DOT ABOVEfBELOW",
  "cNOON WITH TWO DOTS BELOWeSMALL TAHfVcLAM WITH BARcREH WITH TWO DOTS VERTICALLY ABOVE",
  "eHAMZA ABOVEcSEEN WITH TWO DOTS VERTICALLY ABOVEcHAH WITH SMALL ARABIC LETTER TAH BELOW",
  "iAND TWO DOTScSEEN WITH SMALL ARABIC LETTER TAH AND TWO DOTS",
  "cREH WITH SMALL ARABIC LETTER TAH AND TWO DOTScHAH WITH SMALL ARABIC LETTER TAH ABOVE",
  "cALEF WITH EXTENDED ARABIC-INDIC DIGIT TWO ABOVEhTHREE ABOVE",
  "cFARSI YEH WITH EXTENDED ARABIC-INDIC DIGIT TWO ABOVEiTHREE ABOVEiFOUR BELOW",
  "cWAW WITH EXTENDED ARABIC-INDIC DIGIT TWO ABOVEhTHREE ABOVE",
  "cYEH BARREE WITH EXTENDED ARABIC-INDIC DIGIT TWO ABOVEiTHREE ABOVE",
  "cHAH WITH EXTENDED ARABIC-INDIC DIGIT FOUR BELOW",
  "cSEEN WITH EXTENDED ARABIC-INDIC DIGIT FOUR ABOVEeINVERTED VcKAF WITH TWO DOTS ABOVE",
  "aTHAANA LETTER HAAcSHAVIYANIcNOONUcRAAcBAAcLHAVIYANIcKAAFUcALIFUcVAAVUcMEEMUcFAAFUcDHAALU",
  "cTHAAcLAAMUcGAAFUcGNAVIYANIcSEENUcDAVIYANIcZAVIYANIcTAVIYANIcYAAcPAVIYANIcJAVIYANIcCHAVIYANI",
  "cTTAAcHHAAcKHAAcTHAALUcZAAcSHEENUcSAADHUcDAADHUcTOcZOcAINUcGHAINUcQAAFUcWAAVUbABAFILI",
  "bAABAAFILIbIBIFILIbEEBEEFILIbUBUFILIbOOBOOFILIbEBEFILIbEYBEYFILIbOBOFILIbOABOAFILIbSUKUN",
  "bLETTER NAA:7C0aNKO DIGIT ZEROcONEcTWOcTHREEcFOURcFIVEcSIXcSEVENcEIGHTcNINEbLETTER AcEEcIcE",
  "cUcOOcOcDAGBASINNAcNcBAcPAcTAcJAcCHAcDAcRAcRRAcSAcGBAcFAcKAcLAcNA WOLOSOcMAcNYAcNAcHAcWAcYA",
  "cNYA WOLOSOcJONA JAdCHAdRAbCOMBINING SHORT HIGH TONEdLOW TONEdRISING TONE",
  "cLONG DESCENDING TONEdHIGH TONEdLOW TONEdRISING TONEcNASALIZATION MARKcDOUBLE DOT ABOVE",
  "bHIGH TONE APOSTROPHEbLOW TONE APOSTROPHEbSYMBOL OO DENNENcGBAKURUNENbCOMMAbEXCLAMATION MARK",
  "bLAJANYALAN:7FDbDANTAYALANbDOROME SIGNbTAMAN SIGNaSAMARITAN LETTER ALAFcBITcGAMANcDALATcIY",
  "cBAAcZENcITcTITcYUTcKAAFcLABATcMIMcNUNcSINGAATcINcFIcTSAADIYcQUFcRISHcSHANcTAAFbMARK IN",
  "cIN-ALAFcOCCLUSIONcDAGESHbMODIFIER LETTER EPENTHETIC YUTbMARK EPENTHETIC YUT",
  "bVOWEL SIGN LONG EdEdOVERLONG AAdLONG AAdAAdOVERLONG AdLONG AdAbMODIFIER LETTER SHORT A",
  "bVOWEL SIGN SHORT AdLONG UdUbMODIFIER LETTER IbVOWEL SIGN LONG IdIdOdSUKUNbMARK NEQUDAA",
  ":830bPUNCTUATION NEQUDAAcAFSAAQcANGEDcBAUcATMAAUcSHIYYAALAAbABBREVIATION MARK",
  "bPUNCTUATION MELODIC QITSAcZIQAAcQITSAcZAEFcTURUcARKAANUcSOF MASHFAATcANNAAU",
  ":840aMANDAIC LETTER HALQAcABcAGcADcAHcUSHENNAcAZcITcATTcAKSAcAKcALcAMcANcAScINcAPcASZcAQcAR",
  "cASHcATcDUSHENNAcKADcAINbAFFRICATION MARKbVOCALIZATION MARKbGEMINATION MARK:85EbPUNCTUATION",
  ":860aSYRIAC LETTER MALAYALAM NGAdJAdNYAdTTAdNNAdNNNAdBHAdRAdLLAdLLLAdSSA",
  ":870aARABIC LETTER ALEF WITH ATTACHED FATHAfTOP RIGHT FATHAeRIGHT MIDDLE STROKE",
  "eLEFT MIDDLE STROKEeATTACHED KASRAfBOTTOM RIGHT KASRAfROUND DOT ABOVEfRIGHT ROUND DOT",
  "fLEFT ROUND DOTfROUND DOT BELOWeDOT ABOVEeATTACHED TOP RIGHT FATHA AND DOT ABOVE",
  "eRIGHT MIDDLE STROKE AND DOT ABOVEeATTACHED BOTTOM RIGHT KASRA AND DOT ABOVE",
  "fTOP RIGHT FATHA AND LEFT RINGeRIGHT MIDDLE STROKE AND LEFT RING",
  "eATTACHED BOTTOM RIGHT KASRA AND LEFT RINGfRIGHT HAMZAfLEFT HAMZA",
  "bTATWEEL WITH OVERSTRUCK HAMZAeWAWdTWO DOTS BELOWbLETTER THIN YEHbBASELINE ROUND DOT",
  "bRAISED ROUND DOTbLETTER NOON WITH INVERTED SMALL VcHAH WITH INVERTED SMALL V BELOW",
  "cTAH WITH DOT BELOWeTHREE DOTS BELOWcKEHEH WITH TWO DOTS VERTICALLY BELOWbVERTICAL TAIL",
  ":890bPOUND MARK ABOVEbPIASTRE MARK ABOVE:898bSMALL HIGH WORD AL-JUZcLOW WORD ISHMAAMeIMAALA",
  "eTASHEELbMADDA WAAJIBbSUPERSCRIPT ALEF MOKHASSASbDOUBLED MADDAbHALF MADDA OVER MADDA",
  "bLETTER BEH WITH SMALL V BELOWeHAMZA ABOVEcJEEM WITH TWO DOTS ABOVEcTAH WITH TWO DOTS ABOVE",
  "cFEH WITH DOT BELOW AND THREE DOTS ABOVEcQAF WITH DOT BELOWcLAM WITH DOUBLE BAR",
  "cMEEM WITH THREE DOTS ABOVEcYEH WITH TWO DOTS BELOW AND HAMZA ABOVEiDOT ABOVEcREH WITH LOOP",
  "cWAW WITH DOT WITHINcROHINGYA YEHcLOW ALEFcDAL WITH THREE DOTS BELOW",
  "cSAD WITH THREE DOTS BELOWcGAF WITH INVERTED STROKEcSTRAIGHT WAWcZAIN WITH INVERTED V ABOVE",
  "cAIN WITH THREE DOTS BELOWcKAF WITH DOT BELOWcQAF WITH DOT BELOW AND NO DOTS ABOVE",
  "cBEH WITH SMALL MEEM ABOVEcPEH WITH SMALL MEEM ABOVEcTEH WITH SMALL TEH ABOVE",
  "cREH WITH SMALL NOON ABOVEcYEH WITH TWO DOTS BELOW AND SMALL NOON ABOVEcAFRICAN FEHdQAFdNOON",
  "cPEH WITH SMALL VcTEH WITH SMALL VcTTEH WITH SMALL VcTCHEH WITH SMALL VcKEHEH WITH SMALL V",
  "cGHAIN WITH THREE DOTS ABOVEcAFRICAN QAF WITH THREE DOTS ABOVEcJEEM WITH THREE DOTS ABOVE",
  "gBELOWcLAM WITH SMALL ARABIC LETTER TAH ABOVEcGRAFbSMALL FARSI YEHcHIGH FARSI YEH",
  "dYEH BARREE WITH TWO DOTS BELOWdWORD SAHdZAHbLARGE ROUND DOT ABOVEeBELOWbSUKUN BELOW",
  "bLARGE CIRCLE BELOWcROUND DOT INSIDE CIRCLE BELOWbSMALL LOW WAWcHIGH WORD AR-RUBdSADdAINdQAF",
  "dNOON WITH KASRAcLOW NOON WITH KASRAcHIGH WORD ATH-THALATHAeAS-SAJDAeAN-NISFeSAKTAeQIFeWAQFA",
  "dFOOTNOTE MARKERdSIGN SAFHAbDISPUTED END OF AYAHbTURNED DAMMA BELOWbCURLY FATHAcDAMMAcKASRA",
  "cFATHATANcDAMMATANcKASRATANbTONE ONE DOT ABOVEcTWO DOTS ABOVEcLOOP ABOVEcONE DOT BELOW",
  "cTWO DOTS BELOWcLOOP BELOWbOPEN FATHATANcDAMMATANcKASRATANbSMALL HIGH WAWbFATHA WITH RING",
  "dDOT ABOVEbKASRA WITH DOT BELOWbLEFT ARROWHEAD ABOVEbRIGHT ARROWHEAD ABOVE",
  "bLEFT ARROWHEAD BELOWbRIGHT ARROWHEAD BELOWbDOUBLE RIGHT ARROWHEAD ABOVEfWITH DOT",
  "bRIGHT ARROWHEAD ABOVE WITH DOTbDAMMA WITH DOTbMARK SIDEWAYS NOON GHUNNA",
  "aDEVANAGARI SIGN INVERTED CANDRABINDUcCANDRABINDUcANUSVARAcVISARGAbLETTER SHORT AcAcAAcIcII",
  "cUcUUcVOCALIC RdLcCANDRA EcSHORT EcEcAIcCANDRA OcSHORT OcOcAUcKAcKHAcGAcGHAcNGAcCAcCHAcJA",
  "cJHAcNYAcTTAcTTHAcDDAcDDHAcNNAcTAcTHAcDAcDHAcNAcNNNAcPAcPHAcBAcBHAcMAcYAcRAcRRAcLAcLLAcLLLA",
  "cVAcSHAcSSAcSAcHAbVOWEL SIGN OEdOOEbSIGN NUKTAcAVAGRAHAbVOWEL SIGN AAdIdIIdUdUUdVOCALIC ReRR",
  "dCANDRA EdSHORT EdEdAIdCANDRA OdSHORT OdOdAUbSIGN VIRAMAbVOWEL SIGN PRISHTHAMATRA EdAWbOM",
  "bSTRESS SIGN UDATTAdANUDATTAbGRAVE ACCENTbACUTE ACCENTbVOWEL SIGN CANDRA LONG EdUEdUUE",
  "bLETTER QAcKHHAcGHHAcZAcDDDHAcRHAcFAcYYAcVOCALIC RRdLLbVOWEL SIGN VOCALIC LeLLbDANDA",
  "bDOUBLE DANDAbDIGIT ZEROcONEcTWOcTHREEcFOURcFIVEcSIXcSEVENcEIGHTcNINEbABBREVIATION SIGN",
  "bSIGN HIGH SPACING DOTbLETTER CANDRA AcOEcOOEcAWcUEcUUEcMARWARI DDAcZHAcHEAVY YAcGGAcJJA",
  "cGLOTTAL STOPcDDDAcBBAaBENGALI ANJIbSIGN CANDRABINDUcANUSVARAcVISARGA:985bLETTER AcAAcIcIIcU",
  "cUUcVOCALIC RdL:98FcEcAI:993cOcAUcKAcKHAcGAcGHAcNGAcCAcCHAcJAcJHAcNYAcTTAcTTHAcDDAcDDHAcNNA",
  "cTAcTHAcDAcDHAcNA:9AAcPAcPHAcBAcBHAcMAcYAcRA:9B2cLA:9B6cSHAcSSAcSAcHA:9BCbSIGN NUKTA",
  "cAVAGRAHAbVOWEL SIGN AAdIdIIdUdUUdVOCALIC ReRR:9C7dEdAI:9CBdOdAUbSIGN VIRAMA",
  "bLETTER KHANDA TA:9D7bAU LENGTH MARK:9DCbLETTER RRAcRHA:9DFcYYAcVOCALIC RRdLL",
  "bVOWEL SIGN VOCALIC LeLL:9E6bDIGIT ZEROcONEcTWOcTHREEcFOURcFIVEcSIXcSEVENcEIGHTcNINE",
  "bLETTER RA WITH MIDDLE DIAGONALeLOWER DIAGONALbRUPEE MARKcSIGNbCURRENCY NUMERATOR ONEdTWO",
  "dTHREEdFOURdONE LESS THAN THE DENOMINATORcDENOMINATOR SIXTEENbISSHARbGANDA MARK",
  "bLETTER VEDIC ANUSVARAbABBREVIATION SIGNbSANDHI MARK:A01aGURMUKHI SIGN ADAK BINDIcBINDI",
  "cVISARGA:A05bLETTER AcAAcIcIIcUcUU:A0FcEEcAI:A13cOOcAUcKAcKHAcGAcGHAcNGAcCAcCHAcJAcJHAcNYA",
  "cTTAcTTHAcDDAcDDHAcNNAcTAcTHAcDAcDHAcNA:A2AcPAcPHAcBAcBHAcMAcYAcRA:A32cLAcLLA:A35cVAcSHA",
  ":A38cSAcHA:A3CbSIGN NUKTA:A3EbVOWEL SIGN AAdIdIIdUdUU:A47dEEdAI:A4BdOOdAUbSIGN VIRAMA",
  ":A51cUDAAT:A59bLETTER KHHAcGHHAcZAcRRA:A5EcFA:A66bDIGIT ZEROcONEcTWOcTHREEcFOURcFIVEcSIX",
  "cSEVENcEIGHTcNINEbTIPPIbADDAKbIRIbURAbEK ONKARbSIGN YAKASHbABBREVIATION SIGN",
  ":A81aGUJARATI SIGN CANDRABINDUcANUSVARAcVISARGA:A85bLETTER AcAAcIcIIcUcUUcVOCALIC RdL",
  "bVOWEL CANDRA E:A8FbLETTER EcAIbVOWEL CANDRA O:A93bLETTER OcAUcKAcKHAcGAcGHAcNGAcCAcCHAcJA",
  "cJHAcNYAcTTAcTTHAcDDAcDDHAcNNAcTAcTHAcDAcDHAcNA:AAAcPAcPHAcBAcBHAcMAcYAcRA:AB2cLAcLLA:AB5cVA",
  "cSHAcSSAcSAcHA:ABCbSIGN NUKTAcAVAGRAHAbVOWEL SIGN AAdIdIIdUdUUdVOCALIC ReRRdCANDRA E:AC7dE",
  "dAIdCANDRA O:ACBdOdAUbSIGN VIRAMA:AD0bOM:AE0bLETTER VOCALIC RRdLLbVOWEL SIGN VOCALIC LeLL",
  ":AE6bDIGIT ZEROcONEcTWOcTHREEcFOURcFIVEcSIXcSEVENcEIGHTcNINEbABBREVIATION SIGNbRUPEE SIGN",
  ":AF9bLETTER ZHAbSIGN SUKUNcSHADDAcMADDAHcTHREE-DOT NUKTA ABOVEcCIRCLE NUKTA ABOVE",
  "cTWO-CIRCLE NUKTA ABOVE:B01aORIYA SIGN CANDRABINDUcANUSVARAcVISARGA:B05bLETTER AcAAcIcIIcU",
  "cUUcVOCALIC RdL:B0FcEcAI:B13cOcAUcKAcKHAcGAcGHAcNGAcCAcCHAcJAcJHAcNYAcTTAcTTHAcDDAcDDHAcNNA",
  "cTAcTHAcDAcDHAcNA:B2AcPAcPHAcBAcBHAcMAcYAcRA:B32cLAcLLA:B35cVAcSHAcSSAcSAcHA:B3CbSIGN NUKTA",
  "cAVAGRAHAbVOWEL SIGN AAdIdIIdUdUUdVOCALIC ReRR:B47dEdAI:B4BdOdAUbSIGN VIRAMA:B55cOVERLINE",
  "bAI LENGTH MARKbAU LENGTH MARK:B5CbLETTER RRAcRHA:B5FcYYAcVOCALIC RRdLLbVOWEL SIGN VOCALIC L",
  "eLL:B66bDIGIT ZEROcONEcTWOcTHREEcFOURcFIVEcSIXcSEVENcEIGHTcNINEbISSHARbLETTER WA",
  "bFRACTION ONE QUARTERdHALFcTHREE QUARTERScONE SIXTEENTHdEIGHTHcTHREE SIXTEENTHS",
  ":B82aTAMIL SIGN ANUSVARAcVISARGA:B85bLETTER AcAAcIcIIcUcUU:B8EcEcEEcAI:B92cOcOOcAUcKA",
  ":B99cNGAcCA:B9CcJA:B9EcNYAcTTA:BA3cNNAcTA:BA8cNAcNNNAcPA:BAEcMAcYAcRAcRRAcLAcLLAcLLLAcVAcSHA",
  "cSSAcSAcHA:BBEbVOWEL SIGN AAdIdIIdUdUU:BC6dEdEEdAI:BCAdOdOOdAUbSIGN VIRAMA:BD0bOM",
  ":BD7bAU LENGTH MARK:BE6bDIGIT ZEROcONEcTWOcTHREEcFOURcFIVEcSIXcSEVENcEIGHTcNINEbNUMBER TEN",
  "cONE HUNDREDdTHOUSANDbDAY SIGNbMONTH SIGNbYEAR SIGNbDEBIT SIGNbCREDIT SIGNbAS ABOVE SIGN",
  "bRUPEE SIGNbNUMBER SIGN:C00aTELUGU SIGN COMBINING CANDRABINDU ABOVEcCANDRABINDUcANUSVARA",
  "cVISARGAcCOMBINING ANUSVARA ABOVEbLETTER AcAAcIcIIcUcUUcVOCALIC RdL:C0EcEcEEcAI:C12cOcOOcAU",
  "cKAcKHAcGAcGHAcNGAcCAcCHAcJAcJHAcNYAcTTAcTTHAcDDAcDDHAcNNAcTAcTHAcDAcDHAcNA:C2AcPAcPHAcBA",
  "cBHAcMAcYAcRAcRRAcLAcLLAcLLLAcVAcSHAcSSAcSAcHA:C3CbSIGN NUKTAcAVAGRAHAbVOWEL SIGN AAdIdIIdU",
  "dUUdVOCALIC ReRR:C46dEdEEdAI:C4AdOdOOdAUbSIGN VIRAMA:C55bLENGTH MARKbAI LENGTH MARK",
  ":C58bLETTER TSAcDZAcRRRA:C5DcNAKAARA POLLU:C60cVOCALIC RRdLLbVOWEL SIGN VOCALIC LeLL",
  ":C66bDIGIT ZEROcONEcTWOcTHREEcFOURcFIVEcSIXcSEVENcEIGHTcNINE:C77bSIGN SIDDHAM",
  "bFRACTION DIGIT ZERO FOR ODD POWERS OF FOURdONE FOR ODD POWERS OF FOUR",
  "dTWO FOR ODD POWERS OF FOURdTHREE FOR ODD POWERS OF FOURdONE FOR EVEN POWERS OF FOUR",
  "dTWO FOR EVEN POWERS OF FOURdTHREE FOR EVEN POWERS OF FOURbSIGN TUUMU",
  "aKANNADA SIGN SPACING CANDRABINDUcCANDRABINDUcANUSVARAcVISARGAcSIDDHAMbLETTER AcAAcIcIIcUcUU",
  "cVOCALIC RdL:C8EcEcEEcAI:C92cOcOOcAUcKAcKHAcGAcGHAcNGAcCAcCHAcJAcJHAcNYAcTTAcTTHAcDDAcDDHA",
  "cNNAcTAcTHAcDAcDHAcNA:CAAcPAcPHAcBAcBHAcMAcYAcRAcRRAcLAcLLA:CB5cVAcSHAcSSAcSAcHA",
  ":CBCbSIGN NUKTAcAVAGRAHAbVOWEL SIGN AAdIdIIdUdUUdVOCALIC ReRR:CC6dEdEEdAI:CCAdOdOOdAU",
  "bSIGN VIRAMA:CD5bLENGTH MARKbAI LENGTH MARK:CDDbLETTER NAKAARA POLLUcFA:CE0cVOCALIC RRdLL",
  "bVOWEL SIGN VOCALIC LeLL:CE6bDIGIT ZEROcONEcTWOcTHREEcFOURcFIVEcSIXcSEVENcEIGHTcNINE",
  ":CF1bSIGN JIHVAMULIYAcUPADHMANIYA:D00aMALAYALAM SIGN COMBINING ANUSVARA ABOVEcCANDRABINDU",
  "cANUSVARAcVISARGAbLETTER VEDIC ANUSVARAcAcAAcIcIIcUcUUcVOCALIC RdL:D0EcEcEEcAI:D12cOcOOcAU",
  "cKAcKHAcGAcGHAcNGAcCAcCHAcJAcJHAcNYAcTTAcTTHAcDDAcDDHAcNNAcTAcTHAcDAcDHAcNAcNNNAcPAcPHAcBA",
  "cBHAcMAcYAcRAcRRAcLAcLLAcLLLAcVAcSHAcSSAcSAcHAcTTTAbSIGN VERTICAL BAR VIRAMAcCIRCULAR VIRAMA",
  "cAVAGRAHAbVOWEL SIGN AAdIdIIdUdUUdVOCALIC ReRR:D46dEdEEdAI:D4AdOdOOdAUbSIGN VIRAMA",
  "bLETTER DOT REPHbSIGN PARA:D54bLETTER CHILLU MdYdLLLbAU LENGTH MARK",
  "bFRACTION ONE ONE-HUNDRED-AND-SIXTIETHdFORTIETHcTHREE EIGHTIETHScONE TWENTIETHdTENTH",
  "cTHREE TWENTIETHScONE FIFTHbLETTER ARCHAIC IIcVOCALIC RRdLLbVOWEL SIGN VOCALIC LeLL",
  ":D66bDIGIT ZEROcONEcTWOcTHREEcFOURcFIVEcSIXcSEVENcEIGHTcNINEbNUMBER TENcONE HUNDREDdTHOUSAND",
  "bFRACTION ONE QUARTERdHALFcTHREE QUARTERScONE SIXTEENTHdEIGHTHcTHREE SIXTEENTHSbDATE MARK",
  "bLETTER CHILLU NNdNdRRdLdLLdK:D81aSINHALA SIGN CANDRABINDUcANUSVARAYAcVISARGAYA",
  ":D85bLETTER AYANNAcAAYANNAcAEYANNAcAEEYANNAcIYANNAcIIYANNAcUYANNAcUUYANNAcIRUYANNAcIRUUYANNA",
  "cILUYANNAcILUUYANNAcEYANNAcEEYANNAcAIYANNAcOYANNAcOOYANNAcAUYANNA:D9AcALPAPRAANA KAYANNA",
  "cMAHAAPRAANA KAYANNAcALPAPRAANA GAYANNAcMAHAAPRAANA GAYANNAcKANTAJA NAASIKYAYA",
  "cSANYAKA GAYANNAcALPAPRAANA CAYANNAcMAHAAPRAANA CAYANNAcALPAPRAANA JAYANNA",
  "cMAHAAPRAANA JAYANNAcTAALUJA NAASIKYAYAdSANYOOGA NAAKSIKYAYAcSANYAKA JAYANNA",
  "cALPAPRAANA TTAYANNAcMAHAAPRAANA TTAYANNAcALPAPRAANA DDAYANNAcMAHAAPRAANA DDAYANNA",
  "cMUURDHAJA NAYANNAcSANYAKA DDAYANNAcALPAPRAANA TAYANNAcMAHAAPRAANA TAYANNA",
  "cALPAPRAANA DAYANNAcMAHAAPRAANA DAYANNAcDANTAJA NAYANNA:DB3cSANYAKA DAYANNA",
  "cALPAPRAANA PAYANNAcMAHAAPRAANA PAYANNAcALPAPRAANA BAYANNAcMAHAAPRAANA BAYANNAcMAYANNA",
  "cAMBA BAYANNAcYAYANNAcRAYANNA:DBDcDANTAJA LAYANNA:DC0cVAYANNAcTAALUJA SAYANNA",
  "cMUURDHAJA SAYANNAcDANTAJA SAYANNAcHAYANNAcMUURDHAJA LAYANNAcFAYANNA:DCAbSIGN AL-LAKUNA",
  ":DCFbVOWEL SIGN AELA-PILLAdKETTI AEDA-PILLAdDIGA AEDA-PILLAdKETTI IS-PILLAdDIGA IS-PILLA",
  "dKETTI PAA-PILLA:DD6dDIGA PAA-PILLA:DD8dGAETTA-PILLAdKOMBUVAdDIGA KOMBUVAdKOMBU DEKA",
  "dKOMBUVA HAA AELA-PILLAfDIGA AELA-PILLAfGAYANUKITTAdGAYANUKITTA:DE6bLITH DIGIT ZEROdONEdTWO",
  "dTHREEdFOURdFIVEdSIXdSEVENdEIGHTdNINE:DF2bVOWEL SIGN DIGA GAETTA-PILLAeGAYANUKITTA",
  "bPUNCTUATION KUNDDALIYA:E01aTHAI CHARACTER KO KAIcKHO KHAIdKHUATdKHWAIdKHONdRAKHANGcNGO NGU",
  "cCHO CHANdCHINGdCHANGcSO SOcCHO CHOEcYO YINGcDO CHADAcTO PATAKcTHO THANdNANGMONTHOdPHUTHAO",
  "cNO NENcDO DEKcTO TAOcTHO THUNGdTHAHANdTHONGcNO NUcBO BAIMAIcPO PLAcPHO PHUNGcFO FAcPHO PHAN",
  "cFO FANcPHO SAMPHAOcMO MAcYO YAKcRO RUAcRUcLO LINGcLUcWO WAENcSO SALAdRUSIdSUAcHO HIP",
  "cLO CHULAcO ANGcHO NOKHUKcPAIYANNOIcSARA AcMAI HAN-AKATcSARA AAdAMdIdIIdUEdUEEdUdUUcPHINTHU",
  ":E3FbCURRENCY SYMBOL BAHTbCHARACTER SARA EdAEdOdAI MAIMUANeMAIMALAIcLAKKHANGYAOcMAIYAMOK",
  "cMAITAIKHUcMAI EKdTHOdTRIdCHATTAWAcTHANTHAKHATcNIKHAHITcYAMAKKANcFONGMANbDIGIT ZEROcONEcTWO",
  "cTHREEcFOURcFIVEcSIXcSEVENcEIGHTcNINEbCHARACTER ANGKHANKHUcKHOMUT:E81aLAO LETTER KOcKHO SUNG",
  ":E84dTAM:E86cPALI GHAcNGOcCOcPALI CHAcSO TAM:E8CcPALI JHAcNYOcPALI NYAdTTAdTTHAdDDAdDDHAdNNA",
  "cDOcTOcTHO SUNGdTAMcPALI DHAcNOcBOcPOcPHO SUNGcFO TAMcPHO TAMcFO SUNGcPALI BHAcMOcYOcLO LING",
  ":EA5dLOOT:EA7cWOcSANSKRIT SHAdSSAcSO SUNGcHO SUNGcPALI LLAcOcHO TAMbELLIPSISbVOWEL SIGN A",
  "dMAI KANdAAdAMdIdIIdYdYYdUdUUbSIGN PALI VIRAMAbVOWEL SIGN MAI KONbSEMIVOWEL SIGN LOdNYO",
  ":EC0bVOWEL SIGN EdEIdOdAYdAI:EC6bKO LA:EC8bTONE MAI EKdTHOdTIdCATAWAbCANCELLATION MARK",
  "bNIGGAHITA:ED0bDIGIT ZEROcONEcTWOcTHREEcFOURcFIVEcSIXcSEVENcEIGHTcNINE:EDCbHO NOcMO",
  "bLETTER KHMU GOdNYO:F00aTIBETAN SYLLABLE OMbMARK GTER YIG MGO TRUNCATED Af-UM RNAM BCAD MA",
  "gGTER TSHEG MAcINITIAL YIG MGO MDUN MAcCLOSING YIG MGO SGAB MAcCARET YIG MGO PHUR SHAD MA",
  "cYIG MGO TSHEG SHAD MAcSBRUL SHADcBSKUR YIG MGOcBKA- SHOG YIG MGOcINTERSYLLABIC TSHEG",
  "cDELIMITER TSHEG BSTARcSHADcNYIS SHADcTSHEG SHADcNYIS TSHEG SHADcRIN CHEN SPUNGS SHAD",
  "cRGYA GRAM SHADcCARET -DZUD RTAGS ME LONG CANcGTER TSHEGbLOGOTYPE SIGN CHAD RTAGSdLHAG RTAGS",
  "bASTROLOGICAL SIGN SGRA GCAN -CHAR RTAGSd-KHYUD PAdSDONG TSHUGSbSIGN RDEL DKAR GCIGeGNYIS",
  "eGSUMdNAG GCIGeGNYISdDKAR RDEL NAGbDIGIT ZEROcONEcTWOcTHREEcFOURcFIVEcSIXcSEVENcEIGHTcNINE",
  "cHALF ONEdTWOdTHREEdFOURdFIVEdSIXdSEVENdEIGHTdNINEdZERObMARK BSDUS RTAGScNGAS BZUNG NYI ZLA",
  "cCARET -DZUD RTAGS BZHI MIG CANcNGAS BZUNG SGOR RTAGScCHE MGOcTSA -PHRUcGUG RTAGS GYONeGYAS",
  "cANG KHANG GYONeGYASbSIGN YAR TSHEScMAR TSHESbLETTER KAcKHAcGAcGHAcNGAcCAcCHAcJA:F49cNYAcTTA",
  "cTTHAcDDAcDDHAcNNAcTAcTHAcDAcDHAcNAcPAcPHAcBAcBHAcMAcTSAcTSHAcDZAcDZHAcWAcZHAcZAc-AcYAcRAcLA",
  "cSHAcSSAcSAcHAcAcKSSAcFIXED-FORM RAcKKAcRRA:F71bVOWEL SIGN AAdIdIIdUdUUdVOCALIC ReRReLeLLdE",
  "dEEdOdOObSIGN RJES SU NGA ROcRNAM BCADbVOWEL SIGN REVERSED IeIIbSIGN NYI ZLA NAA DAcSNA LDAN",
  "bMARK HALANTAcPALUTAbSIGN LCI RTAGScYANG RTAGScLCE TSA CANcMCHU CANcGRU CAN RGYINGS",
  "dMED RGYINGScINVERTED MCHU CANbSUBJOINED SIGN LCE TSA CANdMCHU CANdINVERTED MCHU CAN",
  "cLETTER KAdKHAdGAdGHAdNGAdCAdCHAdJA:F99dNYAdTTAdTTHAdDDAdDDHAdNNAdTAdTHAdDAdDHAdNAdPAdPHAdBA",
  "dBHAdMAdTSAdTSHAdDZAdDZHAdWAdZHAdZAd-AdYAdRAdLAdSHAdSSAdSAdHAdAdKSSAdFIXED-FORM WAeYAeRA",
  ":FBEbKU RU KHAeBZHI MIG CANbCANTILLATION SIGN HEAVY BEATdLIGHT BEATdCANG TE-UdSBUB -CHAL",
  "bSYMBOL DRIL BUcRDO RJEcPADMA GDANcRDO RJE RGYA GRAMcPHUR PAcNOR BUeNYIS -KHYILeGSUM -KHYIL",
  "eBZHI -KHYIL:FCEbSIGN RDEL NAG RDEL DKAReGSUMbMARK BSKA- SHOG GI MGO RGYAN",
  "cMNYAM YIG GI MGO RGYANcNYIS TSHEGcINITIAL BRDA RNYING YIG MGO MDUN MA",
  "cCLOSING BRDA RNYING YIG MGO SGAB MAaRIGHT-FACING SVASTI SIGNaLEFT-FACING SVASTI SIGN",
  "aRIGHT-FACING SVASTI SIGN WITH DOTSaLEFT-FACING SVASTI SIGN WITH DOTS",
  "aTIBETAN MARK LEADING MCHAN RTAGScTRAILING MCHAN RTAGS:1000aMYANMAR LETTER KAcKHAcGAcGHAcNGA",
  "cCAcCHAcJAcJHAcNYAcNNYAcTTAcTTHAcDDAcDDHAcNNAcTAcTHAcDAcDHAcNAcPAcPHAcBAcBHAcMAcYAcRAcLAcWA",
  "cSAcHAcLLAcAcSHAN AcIcIIcUcUUcEcMON EcOcAUbVOWEL SIGN TALL AAdAAdIdIIdUdUUdEdAIdMON IIeO",
  "dE ABOVEbSIGN ANUSVARAcDOT BELOWcVISARGAcVIRAMAcASATbCONSONANT SIGN MEDIAL YAeRAeWAeHA",
  "bLETTER GREAT SAbDIGIT ZEROcONEcTWOcTHREEcFOURcFIVEcSIXcSEVENcEIGHTcNINEbSIGN LITTLE SECTION",
  "cSECTIONbSYMBOL LOCATIVEcCOMPLETEDcAFOREMENTIONEDcGENITIVEbLETTER SHAcSSAcVOCALIC RdRRdLdLL",
  "bVOWEL SIGN VOCALIC ReRReLeLLbLETTER MON NGAdJHAdBBAdBBEbCONSONANT SIGN MON MEDIAL NAfMAfLA",
  "bLETTER SGAW KAREN SHAbVOWEL SIGN SGAW KAREN EUbTONE MARK SGAW KAREN HATHIfKE PHO",
  "bLETTER WESTERN PWO KAREN THAfPWAbVOWEL SIGN WESTERN PWO KAREN EUgUE",
  "bSIGN WESTERN PWO KAREN TONE-1fTONE-2fTONE-3fTONE-4fTONE-5bLETTER EASTERN PWO KAREN NNAfYWA",
  "fGHWAbVOWEL SIGN GEBA KAREN IdKAYAH OEeUeEEbLETTER SHAN KAdKHAdGAdCAdZAdNYAdDAdNAdPHAdFAdBA",
  "dTHAdHAbCONSONANT SIGN SHAN MEDIAL WAbVOWEL SIGN SHAN AAeEfABOVEeFINAL YbSIGN SHAN TONE-2",
  "dTONE-3dTONE-5dTONE-6dCOUNCIL TONE-2eTONE-3eEMPHATIC TONEbLETTER RUMAI PALAUNG FA",
  "bSIGN RUMAI PALAUNG TONE-5bSHAN DIGIT ZEROdONEdTWOdTHREEdFOURdFIVEdSIXdSEVENdEIGHTdNINE",
  "bSIGN KHAMTI TONE-1dTONE-3bVOWEL SIGN AITON AeAIbSYMBOL SHAN ONEdEXCLAMATION",
  "aGEORGIAN CAPITAL LETTER ANdBANdGANdDONdENdVINdZENdTANdINdKANdLASdMANdNARdONdPARdZHARdRAE",
  "dSANdTARdUNdPHARdKHARdGHANdQARdSHINdCHINdCANdJILdCILdCHARdXANdJHANdHAEdHEdHIEdWEdHARdHOE",
  ":10C7dYN:10CDdAEN:10D0bLETTER ANcBANcGANcDONcENcVINcZENcTANcINcKANcLAScMANcNARcONcPARcZHAR",
  "cRAEcSANcTARcUNcPHARcKHARcGHANcQARcSHINcCHINcCANcJILcCILcCHARcXANcJHANcHAEcHEcHIEcWEcHARcHOE",
  "cFIcYNcELIFIcTURNED GANcAINbPARAGRAPH SEPARATORaMODIFIER LETTER GEORGIAN NAR",
  "aGEORGIAN LETTER AENcHARD SIGNcLABIAL SIGNaHANGUL CHOSEONG KIYEOKcSSANGKIYEOKcNIEUNcTIKEUT",
  "cSSANGTIKEUTcRIEULcMIEUMcPIEUPcSSANGPIEUPcSIOScSSANGSIOScIEUNGcCIEUCcSSANGCIEUCcCHIEUCH",
  "cKHIEUKHcTHIEUTHcPHIEUPHcHIEUHcNIEUN-KIYEOKcSSANGNIEUNcNIEUN-TIKEUTcNIEUN-PIEUP",
  "cTIKEUT-KIYEOKcRIEUL-NIEUNcSSANGRIEULcRIEUL-HIEUHcKAPYEOUNRIEULcMIEUM-PIEUPcKAPYEOUNMIEUM",
  "cPIEUP-KIYEOKcPIEUP-NIEUNcPIEUP-TIKEUTcPIEUP-SIOScPIEUP-SIOS-KIYEOKcPIEUP-SIOS-TIKEUT",
  "cPIEUP-SIOS-PIEUPcPIEUP-SSANGSIOScPIEUP-SIOS-CIEUCcPIEUP-CIEUCcPIEUP-CHIEUCHcPIEUP-THIEUTH",
  "cPIEUP-PHIEUPHcKAPYEOUNPIEUPcKAPYEOUNSSANGPIEUPcSIOS-KIYEOKcSIOS-NIEUNcSIOS-TIKEUT",
  "cSIOS-RIEULcSIOS-MIEUMcSIOS-PIEUPcSIOS-PIEUP-KIYEOKcSIOS-SSANGSIOScSIOS-IEUNGcSIOS-CIEUC",
  "cSIOS-CHIEUCHcSIOS-KHIEUKHcSIOS-THIEUTHcSIOS-PHIEUPHcSIOS-HIEUHcCHITUEUMSIOS",
  "cCHITUEUMSSANGSIOScCEONGCHIEUMSIOScCEONGCHIEUMSSANGSIOScPANSIOScIEUNG-KIYEOKcIEUNG-TIKEUT",
  "cIEUNG-MIEUMcIEUNG-PIEUPcIEUNG-SIOScIEUNG-PANSIOScSSANGIEUNGcIEUNG-CIEUCcIEUNG-CHIEUCH",
  "cIEUNG-THIEUTHcIEUNG-PHIEUPHcYESIEUNGcCIEUC-IEUNGcCHITUEUMCIEUCcCHITUEUMSSANGCIEUC",
  "cCEONGCHIEUMCIEUCcCEONGCHIEUMSSANGCIEUCcCHIEUCH-KHIEUKHcCHIEUCH-HIEUHcCHITUEUMCHIEUCH",
  "cCEONGCHIEUMCHIEUCHcPHIEUPH-PIEUPcKAPYEOUNPHIEUPHcSSANGHIEUHcYEORINHIEUHcKIYEOK-TIKEUT",
  "cNIEUN-SIOScNIEUN-CIEUCcNIEUN-HIEUHcTIKEUT-RIEULcFILLERbJUNGSEONG FILLERcAcAEcYAcYAEcEOcE",
  "cYEOcYEcOcWAcWAEcOEcYOcUcWEOcWEcWIcYUcEUcYIcIcA-OcA-UcYA-OcYA-YOcEO-OcEO-UcEO-EUcYEO-OcYEO-U",
  "cO-EOcO-EcO-YEcO-OcO-UcYO-YAcYO-YAEcYO-YEOcYO-OcYO-IcU-AcU-AEcU-EO-EUcU-YEcU-UcYU-AcYU-EO",
  "cYU-EcYU-YEOcYU-YEcYU-UcYU-IcEU-UcEU-EUcYI-UcI-AcI-YAcI-OcI-UcI-EUcI-ARAEAcARAEAcARAEA-EO",
  "cARAEA-UcARAEA-IcSSANGARAEAcA-EUcYA-UcYEO-YAcO-YAcO-YAEbJONGSEONG KIYEOKcSSANGKIYEOK",
  "cKIYEOK-SIOScNIEUNcNIEUN-CIEUCcNIEUN-HIEUHcTIKEUTcRIEULcRIEUL-KIYEOKcRIEUL-MIEUMcRIEUL-PIEUP",
  "cRIEUL-SIOScRIEUL-THIEUTHcRIEUL-PHIEUPHcRIEUL-HIEUHcMIEUMcPIEUPcPIEUP-SIOScSIOScSSANGSIOS",
  "cIEUNGcCIEUCcCHIEUCHcKHIEUKHcTHIEUTHcPHIEUPHcHIEUHcKIYEOK-RIEULcKIYEOK-SIOS-KIYEOK",
  "cNIEUN-KIYEOKcNIEUN-TIKEUTcNIEUN-SIOScNIEUN-PANSIOScNIEUN-THIEUTHcTIKEUT-KIYEOKcTIKEUT-RIEUL",
  "cRIEUL-KIYEOK-SIOScRIEUL-NIEUNcRIEUL-TIKEUTcRIEUL-TIKEUT-HIEUHcSSANGRIEULcRIEUL-MIEUM-KIYEOK",
  "cRIEUL-MIEUM-SIOScRIEUL-PIEUP-SIOScRIEUL-PIEUP-HIEUHcRIEUL-KAPYEOUNPIEUPcRIEUL-SSANGSIOS",
  "cRIEUL-PANSIOScRIEUL-KHIEUKHcRIEUL-YEORINHIEUHcMIEUM-KIYEOKcMIEUM-RIEULcMIEUM-PIEUP",
  "cMIEUM-SIOScMIEUM-SSANGSIOScMIEUM-PANSIOScMIEUM-CHIEUCHcMIEUM-HIEUHcKAPYEOUNMIEUM",
  "cPIEUP-RIEULcPIEUP-PHIEUPHcPIEUP-HIEUHcKAPYEOUNPIEUPcSIOS-KIYEOKcSIOS-TIKEUTcSIOS-RIEUL",
  "cSIOS-PIEUPcPANSIOScIEUNG-KIYEOKcIEUNG-SSANGKIYEOKcSSANGIEUNGcIEUNG-KHIEUKHcYESIEUNG",
  "cYESIEUNG-SIOScYESIEUNG-PANSIOScPHIEUPH-PIEUPcKAPYEOUNPHIEUPHcHIEUH-NIEUNcHIEUH-RIEUL",
  "cHIEUH-MIEUMcHIEUH-PIEUPcYEORINHIEUHcKIYEOK-NIEUNcKIYEOK-PIEUPcKIYEOK-CHIEUCHcKIYEOK-KHIEUKH",
  "cKIYEOK-HIEUHcSSANGNIEUNaETHIOPIC SYLLABLE HAcHUcHIcHAAcHEEcHEcHOcHOAcLAcLUcLIcLAAcLEEcLEcLO",
  "cLWAcHHAcHHUcHHIcHHAAcHHEEcHHEcHHOcHHWAcMAcMUcMIcMAAcMEEcMEcMOcMWAcSZAcSZUcSZIcSZAAcSZEEcSZE",
  "cSZOcSZWAcRAcRUcRIcRAAcREEcREcROcRWAcSAcSUcSIcSAAcSEEcSEcSOcSWAcSHAcSHUcSHIcSHAAcSHEEcSHE",
  "cSHOcSHWAcQAcQUcQIcQAAcQEEcQEcQOcQOAcQWA:124AcQWIcQWAAcQWEEcQWE:1250cQHAcQHUcQHIcQHAAcQHEE",
  "cQHEcQHO:1258cQHWA:125AcQHWIcQHWAAcQHWEEcQHWE:1260cBAcBUcBIcBAAcBEEcBEcBOcBWAcVAcVUcVIcVAA",
  "cVEEcVEcVOcVWAcTAcTUcTIcTAAcTEEcTEcTOcTWAcCAcCUcCIcCAAcCEEcCEcCOcCWAcXAcXUcXIcXAAcXEEcXEcXO",
  "cXOAcXWA:128AcXWIcXWAAcXWEEcXWE:1290cNAcNUcNIcNAAcNEEcNEcNOcNWAcNYAcNYUcNYIcNYAAcNYEEcNYE",
  "cNYOcNYWAcGLOTTAL AdUdIdAAdEEdEdOdWAcKAcKUcKIcKAAcKEEcKEcKOcKOAcKWA:12B2cKWIcKWAAcKWEEcKWE",
  ":12B8cKXAcKXUcKXIcKXAAcKXEEcKXEcKXO:12C0cKXWA:12C2cKXWIcKXWAAcKXWEEcKXWE:12C8cWAcWUcWIcWAA",
  "cWEEcWEcWOcWOAcPHARYNGEAL AdUdIdAAdEEdEdO:12D8cZAcZUcZIcZAAcZEEcZEcZOcZWAcZHAcZHUcZHIcZHAA",
  "cZHEEcZHEcZHOcZHWAcYAcYUcYIcYAAcYEEcYEcYOcYOAcDAcDUcDIcDAAcDEEcDEcDOcDWAcDDAcDDUcDDIcDDAA",
  "cDDEEcDDEcDDOcDDWAcJAcJUcJIcJAAcJEEcJEcJOcJWAcGAcGUcGIcGAAcGEEcGEcGOcGOAcGWA:1312cGWIcGWAA",
  "cGWEEcGWE:1318cGGAcGGUcGGIcGGAAcGGEEcGGEcGGOcGGWAAcTHAcTHUcTHIcTHAAcTHEEcTHEcTHOcTHWAcCHA",
  "cCHUcCHIcCHAAcCHEEcCHEcCHOcCHWAcPHAcPHUcPHIcPHAAcPHEEcPHEcPHOcPHWAcTSAcTSUcTSIcTSAAcTSEEcTSE",
  "cTSOcTSWAcTZAcTZUcTZIcTZAAcTZEEcTZEcTZOcTZOAcFAcFUcFIcFAAcFEEcFEcFOcFWAcPAcPUcPIcPAAcPEEcPE",
  "cPOcPWAcRYAcMYAcFYA:135DbCOMBINING GEMINATION AND VOWEL LENGTH MARKcVOWEL LENGTH MARK",
  "cGEMINATION MARKbSECTION MARKbWORDSPACEbFULL STOPbCOMMAbSEMICOLONbCOLONbPREFACE COLON",
  "bQUESTION MARKbPARAGRAPH SEPARATORbDIGIT ONEcTWOcTHREEcFOURcFIVEcSIXcSEVENcEIGHTcNINE",
  "bNUMBER TENcTWENTYcTHIRTYcFORTYcFIFTYcSIXTYcSEVENTYcEIGHTYcNINETYcHUNDREDcTEN THOUSAND",
  ":1380bSYLLABLE SEBATBEIT MWAcMWIcMWEEcMWEcSEBATBEIT BWAcBWIcBWEEcBWEcSEBATBEIT FWAcFWIcFWEE",
  "cFWEcSEBATBEIT PWAcPWIcPWEEcPWEbTONAL MARK YIZETdDERETdRIKRIKdSHORT RIKRIKdDIFATdKENAT",
  "dCHIRETdHIDETdDERET-HIDETdKURT:13A0aCHEROKEE LETTER AcEcIcOcUcVcGAcKAcGEcGIcGOcGUcGVcHAcHE",
  "cHIcHOcHUcHVcLAcLEcLIcLOcLUcLVcMAcMEcMIcMOcMUcNAcHNAcNAHcNEcNIcNOcNUcNVcQUAcQUEcQUIcQUOcQUU",
  "cQUVcSAcScSEcSIcSOcSUcSVcDAcTAcDEcTEcDIcTIcDOcDUcDVcDLAcTLAcTLEcTLIcTLOcTLUcTLVcTSAcTSEcTSI",
  "cTSOcTSUcTSVcWAcWEcWIcWOcWUcWVcYAcYEcYIcYOcYUcYVcMV:13F8bSMALL LETTER YEdYIdYOdYUdYVdMV",
  ":1400aCANADIAN SYLLABICS HYPHENcEcAAIcIcIIcOcOOcY-CREE OOcCARRIER EEdIcAcAAcWEcWEST-CREE WE",
  "cWIcWEST-CREE WIcWIIcWEST-CREE WIIcWOcWEST-CREE WOcWOOcWEST-CREE WOOcNASKAPI WOOcWA",
  "cWEST-CREE WAcWAAcWEST-CREE WAAcNASKAPI WAAcAIcY-CREE WcGLOTTAL STOPcFINAL ACUTEdGRAVE",
  "dBOTTOM HALF RINGdTOP HALF RINGdRIGHT HALF RINGdRINGdDOUBLE ACUTEeSHORT VERTICAL STROKES",
  "dMIDDLE DOTdSHORT HORIZONTAL STROKEdPLUSdDOWN TACKcENcINcONcANcPEcPAAIcPIcPIIcPOcPOO",
  "cY-CREE POOcCARRIER HEEdHIcPAcPAAcPWEcWEST-CREE PWEcPWIcWEST-CREE PWIcPWIIcWEST-CREE PWII",
  "cPWOcWEST-CREE PWOcPWOOcWEST-CREE PWOOcPWAcWEST-CREE PWAcPWAAcWEST-CREE PWAAcY-CREE PWAAcP",
  "cWEST-CREE PcCARRIER HcTEcTAAIcTIcTIIcTOcTOOcY-CREE TOOcCARRIER DEEdDIcTAcTAAcTWE",
  "cWEST-CREE TWEcTWIcWEST-CREE TWIcTWIIcWEST-CREE TWIIcTWOcWEST-CREE TWOcTWOOcWEST-CREE TWOO",
  "cTWAcWEST-CREE TWAcTWAAcWEST-CREE TWAAcNASKAPI TWAAcTcTTEcTTIcTTOcTTAcKEcKAAIcKIcKIIcKOcKOO",
  "cY-CREE KOOcKAcKAAcKWEcWEST-CREE KWEcKWIcWEST-CREE KWIcKWIIcWEST-CREE KWIIcKWOcWEST-CREE KWO",
  "cKWOOcWEST-CREE KWOOcKWAcWEST-CREE KWAcKWAAcWEST-CREE KWAAcNASKAPI KWAAcKcKW",
  "cSOUTH-SLAVEY KEHdKIHdKOHdKAHcCEcCAAIcCIcCIIcCOcCOOcY-CREE COOcCAcCAAcCWEcWEST-CREE CWEcCWI",
  "cWEST-CREE CWIcCWIIcWEST-CREE CWIIcCWOcWEST-CREE CWOcCWOOcWEST-CREE CWOOcCWAcWEST-CREE CWA",
  "cCWAAcWEST-CREE CWAAcNASKAPI CWAAcCcSAYISI THcMEcMAAIcMIcMIIcMOcMOOcY-CREE MOOcMAcMAAcMWE",
  "cWEST-CREE MWEcMWIcWEST-CREE MWIcMWIIcWEST-CREE MWIIcMWOcWEST-CREE MWOcMWOOcWEST-CREE MWOO",
  "cMWAcWEST-CREE MWAcMWAAcWEST-CREE MWAAcNASKAPI MWAAcMcWEST-CREE McMHcATHAPASCAN McSAYISI M",
  "cNEcNAAIcNIcNIIcNOcNOOcY-CREE NOOcNAcNAAcNWEcWEST-CREE NWEcNWAcWEST-CREE NWAcNWAA",
  "cWEST-CREE NWAAcNASKAPI NWAAcNcCARRIER NGcNHcLEcLAAIcLIcLIIcLOcLOOcY-CREE LOOcLAcLAAcLWE",
  "cWEST-CREE LWEcLWIcWEST-CREE LWIcLWIIcWEST-CREE LWIIcLWOcWEST-CREE LWOcLWOOcWEST-CREE LWOO",
  "cLWAcWEST-CREE LWAcLWAAcWEST-CREE LWAAcLcWEST-CREE LcMEDIAL LcSEcSAAIcSIcSIIcSOcSOO",
  "cY-CREE SOOcSAcSAAcSWEcWEST-CREE SWEcSWIcWEST-CREE SWIcSWIIcWEST-CREE SWIIcSWOcWEST-CREE SWO",
  "cSWOOcWEST-CREE SWOOcSWAcWEST-CREE SWAcSWAAcWEST-CREE SWAAcNASKAPI SWAAcScATHAPASCAN ScSW",
  "cBLACKFOOT ScMOOSE-CREE SKcNASKAPI SKWdS-WdSPWAdSTWAdSKWAdSCWAcSHEcSHIcSHIIcSHOcSHOOcSHA",
  "cSHAAcSHWEcWEST-CREE SHWEcSHWIcWEST-CREE SHWIcSHWIIcWEST-CREE SHWIIcSHWO"]

/-- The names of characters from U+151E to U+2823. -/
def namesFrom151E : List String := [
  ":151EaCANADIAN SYLLABICS WEST-CREE SHWOcSHWOOcWEST-CREE SHWOOcSHWAcWEST-CREE SHWAcSHWAA",
  "cWEST-CREE SHWAAcSHcYEcYAAIcYIcYIIcYOcYOOcY-CREE YOOcYAcYAAcYWEcWEST-CREE YWEcYWI",
  "cWEST-CREE YWIcYWIIcWEST-CREE YWIIcYWOcWEST-CREE YWOcYWOOcWEST-CREE YWOOcYWAcWEST-CREE YWA",
  "cYWAAcWEST-CREE YWAAcNASKAPI YWAAcYcBIBLE-CREE YcWEST-CREE YcSAYISI YIcREcR-CREE RE",
  "cWEST-CREE LEcRAAIcRIcRIIcROcROOcWEST-CREE LOcRAcRAAcWEST-CREE LAcRWAAcWEST-CREE RWAAcR",
  "cWEST-CREE RcMEDIAL RcFEcFAAIcFIcFIIcFOcFOOcFAcFAAcFWAAcWEST-CREE FWAAcFcTHEcN-CREE THEcTHI",
  "cN-CREE THIcTHIIcN-CREE THIIcTHOcTHOOcTHAcTHAAcTHWAAcWEST-CREE THWAAcTHcTTHEcTTHIcTTHOcTTHA",
  "cTTHcTYEcTYIcTYOcTYAcNUNAVIK HEdHIdHIIdHOdHOOdHAdHAAdHcNUNAVUT HcHKcQAAIcQIcQIIcQOcQOOcQA",
  "cQAAcQcTLHEcTLHIcTLHOcTLHAcWEST-CREE REdRIdROdRAcNGAAIcNGIcNGIIcNGOcNGOOcNGAcNGAAcNGcNNG",
  "cSAYISI SHEdSHIdSHOdSHAcWOODS-CREE THEdTHIdTHOdTHAdTHcLHIcLHIIcLHOcLHOOcLHAcLHAAcLH",
  "cTH-CREE THEdTHIdTHIIdTHOdTHOOdTHAdTHAAdTHcAIVILIK BcBLACKFOOT EdIdOdAdWEdWIdWOdWAdNEdNIdNO",
  "dNAdKEdKIdKOdKAcSAYISI HEdHIdHOdHAcCARRIER GHUdGHOdGHEdGHEEdGHIdGHAdRUdROdREdREEdRIdRAdWUdWO",
  "dWEdWEEdWIdWAdHWUdHWOdHWEdHWEEdHWIdHWAdTHUdTHOdTHEdTHEEdTHIdTHAdTTUdTTOdTTEdTTEEdTTIdTTAdPU",
  "dPOdPEdPEEdPIdPAdPdGUdGOdGEdGEEdGIdGAdKHUdKHOdKHEdKHEEdKHIdKHAdKKUdKKOdKKEdKKEEdKKIdKKAdKK",
  "dNUdNOdNEdNEEdNIdNAdMUdMOdMEdMEEdMIdMAdYUdYOdYEdYEEdYIdYAdJUcSAYISI JUcCARRIER JOdJEdJEEdJI",
  "cSAYISI JIcCARRIER JAdJJUdJJOdJJEdJJEEdJJIdJJAdLUdLOdLEdLEEdLIdLAdDLUdDLOdDLEdDLEEdDLIdDLA",
  "dLHUdLHOdLHEdLHEEdLHIdLHAdTLHUdTLHOdTLHEdTLHEEdTLHIdTLHAdTLUdTLOdTLEdTLEEdTLIdTLAdZUdZOdZE",
  "dZEEdZIdZAdZdINITIAL ZdDZUdDZOdDZEdDZEEdDZIdDZAdSUdSOdSEdSEEdSIdSAdSHUdSHOdSHEdSHEEdSHIdSHA",
  "dSHdTSUdTSOdTSEdTSEEdTSIdTSAdCHUdCHOdCHEdCHEEdCHIdCHAdTTSUdTTSOdTTSEdTTSEEdTTSIdTTSA",
  "cCHI SIGNcFULL STOPcQAIcNGAIcNNGIcNNGIIcNNGOcNNGOOcNNGAcNNGAAcWOODS-CREE THWEEdTHWIdTHWII",
  "dTHWOdTHWOOdTHWAdTHWAAdFINAL THcBLACKFOOT WaOGHAM SPACE MARKbLETTER BEITHcLUIScFEARNcSAIL",
  "cNIONcUATHcDAIRcTINNEcCOLLcCEIRTcMUINcGORTcNGEADALcSTRAIFcRUIScAILMcONNcURcEADHADHcIODHADH",
  "cEABHADHcORcUILLEANNcIFINcEAMHANCHOLLcPEITHbFEATHER MARKbREVERSED FEATHER MARK",
  ":16A0aRUNIC LETTER FEHU FEOH FE FcVcURUZ UR UcYRcYcWcTHURISAZ THURS THORNcETHcANSUZ AcOS O",
  "cAC AcAESCcLONG-BRANCH-OSS OcSHORT-TWIG-OSS OcOcOEcONcRAIDO RAD REID RcKAUNAcCENcKAUN KcG",
  "cENGcGEBO GYFU GcGARcWUNJO WYNN WcHAGLAZ HcHAEGL HcLONG-BRANCH-HAGALL HcSHORT-TWIG-HAGALL H",
  "cNAUDIZ NYD NAUD NcSHORT-TWIG-NAUD NcDOTTED-NcISAZ IS ISS IcEcJERAN JcGERcLONG-BRANCH-AR AE",
  "cSHORT-TWIG-AR AcIWAZ EOHcPERTHO PEORTH PcALGIZ EOLHXcSOWILO ScSIGEL LONG-BRANCH-SOL S",
  "cSHORT-TWIG-SOL ScCcZcTIWAZ TIR TYR TcSHORT-TWIG-TYR TcDcBERKANAN BEORC BJARKAN B",
  "cSHORT-TWIG-BJARKAN BcDOTTED-PcOPEN-PcEHWAZ EH EcMANNAZ MAN McLONG-BRANCH-MADR M",
  "cSHORT-TWIG-MADR McLAUKAZ LAGU LOGR LcDOTTED-LcINGWAZcINGcDAGAZ DAEG DcOTHALAN ETHEL OcEAR",
  "cIORcCWEORTHcCALCcCEALCcSTANcLONG-BRANCH-YRcSHORT-TWIG-YRcICELANDIC-YRcQcX",
  "bSINGLE PUNCTUATIONbMULTIPLE PUNCTUATIONbCROSS PUNCTUATIONbARLAUG SYMBOLbTVIMADUR SYMBOL",
  "bBELGTHOR SYMBOLbLETTER KcSHcOOcFRANKS CASKET OSeISeEHeACeAESC:1700aTAGALOG LETTER AcIcUcKA",
  "cGAcNGAcTAcDAcNAcPAcBAcMAcYAcRAcLAcWAcSAcHAbVOWEL SIGN IdUbSIGN VIRAMAcPAMUDPOD",
  ":171FbLETTER ARCHAIC RAaHANUNOO LETTER AcIcUcKAcGAcNGAcTAcDAcNAcPAcBAcMAcYAcRAcLAcWAcSAcHA",
  "bVOWEL SIGN IdUbSIGN PAMUDPODaPHILIPPINE SINGLE PUNCTUATIONbDOUBLE PUNCTUATION",
  ":1740aBUHID LETTER AcIcUcKAcGAcNGAcTAcDAcNAcPAcBAcMAcYAcRAcLAcWAcSAcHAbVOWEL SIGN IdU",
  ":1760aTAGBANWA LETTER AcIcUcKAcGAcNGAcTAcDAcNAcPAcBAcMAcYA:176EcLAcWAcSA:1772bVOWEL SIGN IdU",
  ":1780aKHMER LETTER KAcKHAcKOcKHOcNGOcCAcCHAcCOcCHOcNYOcDAcTTHAcDOcTTHOcNNOcTAcTHAcTOcTHOcNO",
  "cBAcPHAcPOcPHOcMOcYOcROcLOcVOcSHAcSSOcSAcHAcLAcQAbINDEPENDENT VOWEL QAQdQAAdQIdQIIdQUdQUK",
  "dQUUdQUUVdRYdRYYdLYdLYYdQEdQAIdQOO TYPE ONEfTWOdQAUbVOWEL INHERENT AQdAAcSIGN AAdIdIIdYdYYdU",
  "dUUdUAdOEdYAdIEdEdAEdAIdOOdAUbSIGN NIKAHITcREAHMUKcYUUKALEAPINTUcMUUSIKATOANcTRIISAPcBANTOC",
  "cROBATcTOANDAKHIATcKAKABATcAHSDAcSAMYOK SANNYAcVIRIAMcCOENGcBATHAMASATcKHANcBARIYOOSAN",
  "cCAMNUC PII KUUHcLEK TOOcBEYYALcPHNAEK MUANcKOOMUUTbCURRENCY SYMBOL RIELbSIGN AVAKRAHASANYA",
  "cATTHACAN:17E0bDIGIT ZEROcONEcTWOcTHREEcFOURcFIVEcSIXcSEVENcEIGHTcNINE",
  ":17F0bSYMBOL LEK ATTAK SONeMUOYePIIeBEIeBUONePRAMePRAM-MUOYePRAM-PIIePRAM-BEIePRAM-BUON",
  ":1800aMONGOLIAN BIRGAbELLIPSISbCOMMAbFULL STOPbCOLONbFOUR DOTSbTODO SOFT HYPHEN",
  "bSIBE SYLLABLE BOUNDARY MARKERbMANCHU COMMAcFULL STOPbNIRUGUbFREE VARIATION SELECTOR ONEeTWO",
  "eTHREEbVOWEL SEPARATORbFREE VARIATION SELECTOR FOURbDIGIT ZEROcONEcTWOcTHREEcFOURcFIVEcSIX",
  "cSEVENcEIGHTcNINE:1820bLETTER AcEcIcOcUcOEcUEcEEcNAcANGcBAcPAcQAcGAcMAcLAcSAcSHAcTAcDAcCHA",
  "cJAcYAcRAcWAcFAcKAcKHAcTSAcZAcHAAcZRAcLHAcZHIcCHIcTODO LONG VOWEL SIGNdEdIdOdUdOEdUEdANGdBA",
  "dPAdQAdGAdMAdTAdDAdCHAdJAdTSAdYAdWAdKAdGAAdHAAdJIAdNIAdDZAcSIBE EdIdIYdUEdUdANGdKAdGAdHAdPA",
  "dSHAdTAdDAdJAdFAdGAAdHAAdTSAdZAdRAAdCHAdZHAcMANCHU IdKAdRAdFAdZHAcCHA WITH TWO DOTS",
  ":1880cALI GALI ANUSVARA ONEeVISARGA ONEeDAMARUeUBADAMAeINVERTED UBADAMAeBALUDAeTHREE BALUDA",
  "eAeIeKAeNGAeCAeTTAeTTHAeDDAeNNAeTAeDAePAePHAeSSAeZHAeZAeAHcTODO ALI GALI TAfZHA",
  "cMANCHU ALI GALI GHAfNGAfCAfJHAfTTAfDDHAfTAfDHAfSSAfCYAfZHAfZAcALI GALI HALF UfYA",
  "cMANCHU ALI GALI BHAcALI GALI DAGALGAcMANCHU ALI GALI LHA:18B0aCANADIAN SYLLABICS OYcAYcAAY",
  "cWAYcPOYcPAYcPWOYcTAYcKAYcKWAYcMAYcNOYcNAYcLAYcSOYcSAYcSHOYcSHAYcSHWOYcYOYcYAYcRAYcNWI",
  "cOJIBWAY NWIcNWIIcOJIBWAY NWIIcNWOcOJIBWAY NWOcNWOOcOJIBWAY NWOOcRWEEcRWIcRWIIcRWOcRWOOcRWA",
  "cOJIBWAY PdTdKdCdMdNdSdSHcEASTERN WcWESTERN WcFINAL SMALL RINGdRAISED DOTcR-CREE RWE",
  "cWEST-CREE LOOdLAAcTHWEcTHWAcTTHWEcTTHOOcTTHAAcTLHWEcTLHOOcSAYISI SHWEdSHOOdHOOcCARRIER GWU",
  "dDENE GEEdGAAdGWAcSAYISI JUUcCARRIER JWAcBEAVER DENE LeRcCARRIER DENTAL S",
  ":1900aLIMBU VOWEL-CARRIER LETTERbLETTER KAcKHAcGAcGHAcNGAcCAcCHAcJAcJHAcYANcTAcTHAcDAcDHAcNA",
  "cPAcPHAcBAcBHAcMAcYAcRAcLAcWAcSHAcSSAcSAcHAcGYANcTRA:1920bVOWEL SIGN AdIdUdEEdAIdOOdAUdEdO",
  "bSUBJOINED LETTER YAdRAdWA:1930bSMALL LETTER KAdNGAdANUSVARAdTAdNAdPAdMAdRAdLA",
  "bSIGN MUKPHRENGcKEMPHRENGcSA-I:1940cLOO:1944bEXCLAMATION MARKbQUESTION MARKbDIGIT ZEROcONE",
  "cTWOcTHREEcFOURcFIVEcSIXcSEVENcEIGHTcNINEaTAI LE LETTER KAdXAdNGAdTSAdSAdYAdTAdTHAdLAdPAdPHA",
  "dMAdFAdVAdHAdQAdKHAdTSHAdNAdAdIdEEdEHdUdOOdOdUEdEdAUEdAI:1970dTONE-2dTONE-3dTONE-4dTONE-5",
  "dTONE-6:1980aNEW TAI LUE LETTER HIGH QAeLOW QAeHIGH KAfXAfNGAeLOW KAfXAfNGAeHIGH TSAfSAfYA",
  "eLOW TSAfSAfYAeHIGH TAfTHAfNAeLOW TAfTHAfNAeHIGH PAfPHAfMAeLOW PAfPHAfMAeHIGH FAfVAfLA",
  "eLOW FAfVAfLAeHIGH HAfDAfBAeLOW HAfDAfBAeHIGH KVAfXVAeLOW KVAfXVAeHIGH SUAeLOW SUA",
  ":19B0dVOWEL SIGN VOWEL SHORTENERfAAfIIfUfUUfEfAEfOfOAfUEfAYfAAYfUYfOYfOAYfUEYfIY",
  "dLETTER FINAL VfNGfNfMfKfDfBdTONE MARK-1eMARK-2:19D0dDIGIT ZEROeONEeTWOeTHREEeFOUReFIVEeSIX",
  "eSEVENeEIGHTeNINEdTHAM DIGIT ONE:19DEdSIGN LAEeLAEVaKHMER SYMBOL PATHAMASATcMUOY KOET",
  "cPII KOETcBEI KOETcBUON KOETcPRAM KOETcPRAM-MUOY KOETcPRAM-PII KOETcPRAM-BEI KOET",
  "cPRAM-BUON KOETcDAP KOETcDAP-MUOY KOETcDAP-PII KOETcDAP-BEI KOETcDAP-BUON KOETcDAP-PRAM KOET",
  "cTUTEYASATcMUOY ROCcPII ROCcBEI ROCcBUON ROCcPRAM ROCcPRAM-MUOY ROCcPRAM-PII ROC",
  "cPRAM-BEI ROCcPRAM-BUON ROCcDAP ROCcDAP-MUOY ROCcDAP-PII ROCcDAP-BEI ROCcDAP-BUON ROC",
  "cDAP-PRAM ROCaBUGINESE LETTER KAcGAcNGAcNGKAcPAcBAcMAcMPAcTAcDAcNAcNRAcCAcJAcNYAcNYCAcYAcRA",
  "cLAcVAcSAcAcHAbVOWEL SIGN IdUdEdOdAE:1A1EbPALLAWAbEND OF SECTIONaTAI THAM LETTER HIGH KAeKHA",
  "eKXAdLOW KAeKXAeKHAdNGAdHIGH CAeCHAdLOW CAeSAeCHAdNYAdRATAdHIGH RATHAdDAdLOW RATHAdRANA",
  "dHIGH TAeTHAdLOW TAeTHAdNAdBAdHIGH PAePHAeFAdLOW PAeFAePHAdMAdLOW YAdHIGH YAdRAdRUEdLAdLUE",
  "dWAdHIGH SHAeSSAeSAeHAdLLAdAdLOW HAdIdIIdUdUUdEEdOOdLAEdGREAT SAcCONSONANT SIGN MEDIAL RAfLA",
  "eLA TANG LAIcSIGN MAI KANG LAIcCONSONANT SIGN FINAL NGAeLOW PAeHIGH RATHA OR LOW PAeMAeBAeSA",
  ":1A60cSIGN SAKOTcVOWEL SIGN AeMAI SATeAAeTALL AAeIeIIeUEeUUEeUeUUeOeOA BELOWeOYeEeAEeOOeAI",
  "eTHAM AIeOA ABOVEcSIGN MAI KANGdTONE-1dTONE-2dKHUEN TONE-3eTONE-4eTONE-5dRA HAAMdMAI SAM",
  "dKHUEN-LUE KARAN:1A7FcCOMBINING CRYPTOGRAMMIC DOTcHORA DIGIT ZEROeONEeTWOeTHREEeFOUReFIVE",
  "eSIXeSEVENeEIGHTeNINE:1A90cTHAM DIGIT ZEROeONEeTWOeTHREEeFOUReFIVEeSIXeSEVENeEIGHTeNINE",
  ":1AA0cSIGN WIANGdWIANGWAAKdSAWANdKEOWdHOYdDOKMAIdREVERSED ROTATED RANAdMAI YAMOKdKAAN",
  "dKAANKUUdSATKAANdSATKAANKUUdHANGdCAANG:1AB0aCOMBINING DOUBLED CIRCUMFLEX ACCENT",
  "bDIAERESIS-RINGbINFINITYbDOWNWARDS ARROWbTRIPLE DOTbX-X BELOWbWIGGLY LINE BELOW",
  "bOPEN MARK BELOWbDOUBLE OPEN MARK BELOWbLIGHT CENTRALIZATION STROKE BELOW",
  "bSTRONG CENTRALIZATION STROKE BELOWbPARENTHESES ABOVEbDOUBLE PARENTHESES ABOVE",
  "bPARENTHESES BELOWcOVERLAYbLATIN SMALL LETTER W BELOWeTURNED W BELOW",
  "bLEFT PARENTHESIS ABOVE LEFTbRIGHT PARENTHESIS ABOVE RIGHTbLEFT PARENTHESIS BELOW LEFT",
  "bRIGHT PARENTHESIS BELOW RIGHTbSQUARE BRACKETS ABOVEbNUMBER SIGN ABOVE",
  "bINVERTED DOUBLE ARCH ABOVEbPLUS SIGN ABOVEbDOUBLE PLUS SIGN ABOVEeBELOWbTRIPLE ACUTE ACCENT",
  "bLATIN SMALL LETTER INSULAR GfRfT:1B00aBALINESE SIGN ULU RICEMdCANDRAcCECEKcSURANGcBISAH",
  "bLETTER AKARAdTEDUNGcIKARAdTEDUNGcUKARAdTEDUNGcRA REPAeTEDUNGcLA LENGAeTEDUNGcEKARAcAIKARA",
  "cOKARAdTEDUNGcKAdMAHAPRANAcGAdGORAcNGAcCAdLACAcJAdJERAcNYAcTA LATIKdMURDA MAHAPRANA",
  "cDA MURDA ALPAPRANAeMAHAPRANAcNA RAMBATcTAdTAWAcDAdMADUcNAcPAdKAPALcBAdKEMBANGcMAcYAcRAcLA",
  "cWAcSA SAGAdSAPAcSAcHAbSIGN REREKANbVOWEL SIGN TEDUNGdULUeSARIdSUKUeILUTdRA REPAfTEDUNG",
  "dLA LENGAfTEDUNGdTALINGeREPAeTEDUNGeREPA TEDUNGdPEPETeTEDUNGbADEG ADEGbLETTER KAF SASAK",
  "cKHOT SASAKcTZIR SASAKcEF SASAKcVE SASAKcZAL SASAKcASYURA SASAKcARCHAIC JNYA:1B50bDIGIT ZERO",
  "cONEcTWOcTHREEcFOURcFIVEcSIXcSEVENcEIGHTcNINEbPANTIbPAMADAbWINDUbCARIK PAMUNGKAHcSIKI",
  "cPARERENbPAMENENGbMUSICAL SYMBOL DONGdDENGdDUNGdDANGeSURANGdDINGdDAENGdDEUNGdDAINGdDANG GEDE",
  "dCOMBINING TEGEHeENDEPeKEMPULeKEMPLIeJEGOGANeKEMPUL WITH JEGOGANeKEMPLI WITH JEGOGANeBENDE",
  "eGONGdRIGHT-HAND OPEN DUGfDAGeCLOSED TUKfTAKdLEFT-HAND OPEN PANGfPUNGeCLOSED PLAKfPLUK",
  "eOPEN PINGbPANTI LANTANGbPAMADA LANTANG:1B80aSUNDANESE SIGN PANYECEKcPANGLAYARcPANGWISAD",
  "bLETTER AcIcUcAEcOcEcEUcKAcQAcGAcNGAcCAcJAcZAcNYAcTAcDAcNAcPAcFAcVAcBAcMAcYAcRAcLAcWAcSAcXA",
  "cHAbCONSONANT SIGN PAMINGKALdPANYAKRAdPANYIKUbVOWEL SIGN PANGHULUdPANYUKUdPANAELAENG",
  "dPANOLONGdPAMEPETdPANEULEUNGbSIGN PAMAAEHcVIRAMAbCONSONANT SIGN PASANGAN MAeWAbLETTER KHA",
  "cSYAbDIGIT ZEROcONEcTWOcTHREEcFOURcFIVEcSIXcSEVENcEIGHTcNINEbAVAGRAHAbLETTER REUcLEUcBHA",
  "cFINAL KdMaBATAK LETTER AcSIMALUNGUN AcHAcSIMALUNGUN HAcMANDAILING HAcBAcKARO BAcPA",
  "cSIMALUNGUN PAcNAcMANDAILING NAcWAcSIMALUNGUN WAcPAKPAK WAcGAcSIMALUNGUN GAcJAcDAcRA",
  "cSIMALUNGUN RAcMAcSIMALUNGUN MAcSOUTHERN TAcNORTHERN TAcSAcSIMALUNGUN SAcMANDAILING SAcYA",
  "cSIMALUNGUN YAcNGAcLAcSIMALUNGUN LAcNYAcCAcNDAcMBAcIcUbSIGN TOMPIbVOWEL SIGN EdPAKPAK EdEEdI",
  "dKARO IdOdKARO OdUeFOR SIMALUNGUN SAbCONSONANT SIGN NGdHbPANGOLATbPANONGONAN",
  ":1BFCbSYMBOL BINDU NA METEKdPINARBORASdJUDULdPANGOLATaLEPCHA LETTER KAcKLAcKHAcGAcGLAcNGAcCA",
  "cCHAcJAcNYAcTAcTHAcDAcNAcPAcPLAcPHAcFAcFLAcBAcBLAcMAcMLAcTSAcTSHAcDZAcYAcRAcLAcHAcHLAcVAcSA",
  "cSHAcWAcAbSUBJOINED LETTER YAdRAbVOWEL SIGN AAdIdOdOOdUdUUdEbCONSONANT SIGN KdMdLdNdPdRdT",
  "dNYIN-DOdKANGbSIGN RANcNUKTA:1C3BbPUNCTUATION TA-ROLcNYET THYOOM TA-ROLcCER-WAcTSHOOK CER-WA",
  "cTSHOOKbDIGIT ZEROcONEcTWOcTHREEcFOURcFIVEcSIXcSEVENcEIGHTcNINE:1C4DbLETTER TTAcTTHAcDDA",
  "aOL CHIKI DIGIT ZEROdONEdTWOdTHREEdFOURdFIVEdSIXdSEVENdEIGHTdNINEcLETTER LAdATdAGdANGdALdLAA",
  "dAAKdAAJdAAMdAAWdLIdISdIHdINYdIRdLUdUCdUDdUNNdUYdLEdEPdEDDdENdERRdLOdOTTdOBdOVdOHcMU TTUDDAG",
  "cGAAHLAA TTUDDAAGcMU-GAAHLAA TTUDDAAGcRELAAcPHAARKAAcAHADcPUNCTUATION MUCAADdDOUBLE MUCAAD",
  "aCYRILLIC SMALL LETTER ROUNDED VEdLONG-LEGGED DEdNARROW OdWIDE ESdTALL TEdTHREE-LEGGED TE",
  "dTALL HARD SIGNeYATdUNBLENDED UK:1C90aGEORGIAN MTAVRULI CAPITAL LETTER ANeBANeGANeDONeENeVIN",
  "eZENeTANeINeKANeLASeMANeNAReONePAReZHAReRAEeSANeTAReUNePHAReKHAReGHANeQAReSHINeCHINeCANeJIL",
  "eCILeCHAReXANeJHANeHAEeHEeHIEeWEeHAReHOEeFIeYNeELIFIeTURNED GANeAIN:1CBDeAENeHARD SIGN",
  "eLABIAL SIGNaSUNDANESE PUNCTUATION BINDU SURYAdPANGLONGdPURNAMAdCAKRAdLEU SATANGAdKA SATANGA",
  "dDA SATANGAdBA SATANGA:1CD0aVEDIC TONE KARSHANAcSHARAcPRENKHAbSIGN NIHSHVASA",
  "cYAJURVEDIC MIDLINE SVARITAbTONE YAJURVEDIC AGGRAVATED INDEPENDENT SVARITA",
  "dINDEPENDENT SVARITAdKATHAKA INDEPENDENT SVARITAcCANDRA BELOW",
  "cYAJURVEDIC KATHAKA INDEPENDENT SVARITA SCHROEDERcDOUBLE SVARITAcTRIPLE SVARITA",
  "cKATHAKA ANUDATTAcDOT BELOWcTWO DOTS BELOWcTHREE DOTS BELOW",
  "cRIGVEDIC KASHMIRI INDEPENDENT SVARITAcATHARVAVEDIC INDEPENDENT SVARITAbSIGN VISARGA SVARITA",
  "dUDATTAcREVERSED VISARGA UDATTAcVISARGA ANUDATTAcREVERSED VISARGA ANUDATTA",
  "cVISARGA UDATTA WITH TAILdANUDATTA WITH TAILcANUSVARA ANTARGOMUKHAdBAHIRGOMUKHAdVAMAGOMUKHA",
  "eWITH TAILcTIRYAKcHEXIFORM LONG ANUSVARAcLONG ANUSVARAcRTHANG LONG ANUSVARA",
  "cANUSVARA UBHAYATO MUKHAcARDHAVISARGAcROTATED ARDHAVISARGAbTONE CANDRA ABOVE",
  "bSIGN JIHVAMULIYAcUPADHMANIYAcATIKRAMAbTONE RING ABOVEcDOUBLE RING ABOVE",
  "bSIGN DOUBLE ANUSVARA ANTARGOMUKHA:1D00aLATIN LETTER SMALL CAPITAL AeAE",
  "bSMALL LETTER TURNED AEbLETTER SMALL CAPITAL BARRED BeCeDeETHeEbSMALL LETTER TURNED OPEN EeI",
  "bLETTER SMALL CAPITAL JeKeL WITH STROKEeMeREVERSED NeOeOPEN ObSMALL LETTER SIDEWAYS OeOPEN O",
  "eO WITH STROKEdTURNED OEbLETTER SMALL CAPITAL OUbSMALL LETTER TOP HALF OdBOTTOM HALF O",
  "bLETTER SMALL CAPITAL PeREVERSED ReTURNED ReTeUbSMALL LETTER SIDEWAYS UeDIAERESIZED U",
  "eTURNED MbLETTER SMALL CAPITAL VeWeZeEZHcVOICED LARYNGEAL SPIRANTcAIN",
  "aGREEK LETTER SMALL CAPITAL GAMMAeLAMDAePIeRHOePSIaCYRILLIC LETTER SMALL CAPITAL EL",
  "aMODIFIER LETTER CAPITAL AdAEdBdBARRED BdDdEdREVERSED EdGdHdIdJdKdLdMdNdREVERSED NdOdOUdPdR",
  "dTdUdWcSMALL AdTURNED AdALPHAdTURNED AEdBdDdEdSCHWAdOPEN EdTURNED OPEN EdGdTURNED IdKdMdENG",
  "dOdOPEN OdTOP HALF OdBOTTOM HALF OdPdTdUdSIDEWAYS UdTURNED MdVdAINdBETAdGREEK GAMMAdDELTA",
  "dGREEK PHIdCHIaLATIN SUBSCRIPT SMALL LETTER IeReUeVaGREEK SUBSCRIPT SMALL LETTER BETAeGAMMA",
  "eRHOePHIeCHIaLATIN SMALL LETTER UEdB WITH MIDDLE TILDEdD WITH MIDDLE TILDE",
  "dF WITH MIDDLE TILDEdM WITH MIDDLE TILDEdN WITH MIDDLE TILDEdP WITH MIDDLE TILDE",
  "dR WITH MIDDLE TILDEfFISHHOOK AND MIDDLE TILDEdS WITH MIDDLE TILDEdT WITH MIDDLE TILDE",
  "dZ WITH MIDDLE TILDEdTURNED GaMODIFIER LETTER CYRILLIC ENaLATIN SMALL LETTER INSULAR G",
  "dTH WITH STRIKETHROUGHcCAPITAL LETTER I WITH STROKEcLETTER IOTA WITH STROKEdP WITH STROKE",
  "cCAPITAL LETTER U WITH STROKEcLETTER UPSILON WITH STROKEdB WITH PALATAL HOOK",
  "dD WITH PALATAL HOOKdF WITH PALATAL HOOKdG WITH PALATAL HOOKdK WITH PALATAL HOOK",
  "dL WITH PALATAL HOOKdM WITH PALATAL HOOKdN WITH PALATAL HOOKdP WITH PALATAL HOOK",
  "dR WITH PALATAL HOOKdS WITH PALATAL HOOKdESH WITH PALATAL HOOKdV WITH PALATAL HOOK",
  "dX WITH PALATAL HOOKdZ WITH PALATAL HOOKdA WITH RETROFLEX HOOKdALPHA WITH RETROFLEX HOOK",
  "dD WITH HOOK AND TAILdE WITH RETROFLEX HOOKdOPEN E WITH RETROFLEX HOOK",
  "dREVERSED OPEN E WITH RETROFLEX HOOKdSCHWA WITH RETROFLEX HOOKdI WITH RETROFLEX HOOK",
  "dOPEN O WITH RETROFLEX HOOKdESH WITH RETROFLEX HOOKdU WITH RETROFLEX HOOK",
  "dEZH WITH RETROFLEX HOOKaMODIFIER LETTER SMALL TURNED ALPHAdCeWITH CURLdETHdREVERSED OPEN E",
  "dFdDOTLESS J WITH STROKEdSCRIPT GdTURNED HdI WITH STROKEdIOTAdCAPITAL IfWITH STROKE",
  "dJ WITH CROSSED-TAILdL WITH RETROFLEX HOOKfPALATAL HOOKdCAPITAL LdM WITH HOOK",
  "dTURNED M WITH LONG LEGdN WITH LEFT HOOKfRETROFLEX HOOKdCAPITAL NdBARRED OdPHIdS WITH HOOK",
  "dESHdT WITH PALATAL HOOKdU BARdUPSILONdCAPITAL UdV WITH HOOKdTURNED VdZeWITH RETROFLEX HOOK",
  "fCURLdEZHdTHETAaCOMBINING DOTTED GRAVE ACCENTcACUTE ACCENTbSNAKE BELOWbSUSPENSION MARK",
  "bMACRON-ACUTEbGRAVE-MACRONbMACRON-GRAVEbACUTE-MACRONbGRAVE-ACUTE-GRAVEbACUTE-GRAVE-ACUTE",
  "bLATIN SMALL LETTER R BELOWbBREVE-MACRONbMACRON-BREVEbDOUBLE CIRCUMFLEX ABOVEbOGONEK ABOVE",
  "bZIGZAG BELOWbIS BELOWbUR ABOVEbUS ABOVEbLATIN SMALL LETTER FLATTENED OPEN A ABOVEeAEeAOeAV",
  "eC CEDILLAeINSULAR DeETHeGcLETTER SMALL CAPITAL GcSMALL LETTER KeLcLETTER SMALL CAPITAL LfM",
  "cSMALL LETTER NcLETTER SMALL CAPITAL NfRcSMALL LETTER R ROTUNDAeSeLONG SeZeALPHAeBeBETA",
  "eSCHWAeFeL WITH DOUBLE MIDDLE TILDEeO WITH LIGHT CENTRALIZATION STROKEePeESH",
  "eU WITH LIGHT CENTRALIZATION STROKEeWeA WITH DIAERESISeO WITH DIAERESISeU WITH DIAERESIS",
  "bUP TACK ABOVEbKAVYKA ABOVE RIGHTdLEFTbDOT ABOVE LEFTbWIDE INVERTED BRIDGE BELOW",
  "bDOT BELOW LEFTbDELETION MARKbDOUBLE INVERTED BREVE BELOWbALMOST EQUAL TO BELOW",
  "bLEFT ARROWHEAD ABOVEbRIGHT ARROWHEAD AND DOWN ARROWHEAD BELOW",
  "aLATIN CAPITAL LETTER A WITH RING BELOWbSMALL LETTER A WITH RING BELOW",
  "bCAPITAL LETTER B WITH DOT ABOVEbSMALL LETTER B WITH DOT ABOVE",
  "bCAPITAL LETTER B WITH DOT BELOWbSMALL LETTER B WITH DOT BELOW",
  "bCAPITAL LETTER B WITH LINE BELOWbSMALL LETTER B WITH LINE BELOW",
  "bCAPITAL LETTER C WITH CEDILLA AND ACUTEbSMALL LETTER C WITH CEDILLA AND ACUTE",
  "bCAPITAL LETTER D WITH DOT ABOVEbSMALL LETTER D WITH DOT ABOVE",
  "bCAPITAL LETTER D WITH DOT BELOWbSMALL LETTER D WITH DOT BELOW",
  "bCAPITAL LETTER D WITH LINE BELOWbSMALL LETTER D WITH LINE BELOW",
  "bCAPITAL LETTER D WITH CEDILLAbSMALL LETTER D WITH CEDILLA",
  "bCAPITAL LETTER D WITH CIRCUMFLEX BELOWbSMALL LETTER D WITH CIRCUMFLEX BELOW",
  "bCAPITAL LETTER E WITH MACRON AND GRAVEbSMALL LETTER E WITH MACRON AND GRAVE",
  "bCAPITAL LETTER E WITH MACRON AND ACUTEbSMALL LETTER E WITH MACRON AND ACUTE",
  "bCAPITAL LETTER E WITH CIRCUMFLEX BELOWbSMALL LETTER E WITH CIRCUMFLEX BELOW",
  "bCAPITAL LETTER E WITH TILDE BELOWbSMALL LETTER E WITH TILDE BELOW",
  "bCAPITAL LETTER E WITH CEDILLA AND BREVEbSMALL LETTER E WITH CEDILLA AND BREVE",
  "bCAPITAL LETTER F WITH DOT ABOVEbSMALL LETTER F WITH DOT ABOVEbCAPITAL LETTER G WITH MACRON",
  "bSMALL LETTER G WITH MACRONbCAPITAL LETTER H WITH DOT ABOVEbSMALL LETTER H WITH DOT ABOVE",
  "bCAPITAL LETTER H WITH DOT BELOWbSMALL LETTER H WITH DOT BELOW",
  "bCAPITAL LETTER H WITH DIAERESISbSMALL LETTER H WITH DIAERESISbCAPITAL LETTER H WITH CEDILLA",
  "bSMALL LETTER H WITH CEDILLAbCAPITAL LETTER H WITH BREVE BELOW",
  "bSMALL LETTER H WITH BREVE BELOWbCAPITAL LETTER I WITH TILDE BELOW",
  "bSMALL LETTER I WITH TILDE BELOWbCAPITAL LETTER I WITH DIAERESIS AND ACUTE",
  "bSMALL LETTER I WITH DIAERESIS AND ACUTEbCAPITAL LETTER K WITH ACUTE",
  "bSMALL LETTER K WITH ACUTEbCAPITAL LETTER K WITH DOT BELOWbSMALL LETTER K WITH DOT BELOW",
  "bCAPITAL LETTER K WITH LINE BELOWbSMALL LETTER K WITH LINE BELOW",
  "bCAPITAL LETTER L WITH DOT BELOWbSMALL LETTER L WITH DOT BELOW",
  "bCAPITAL LETTER L WITH DOT BELOW AND MACRONbSMALL LETTER L WITH DOT BELOW AND MACRON",
  "bCAPITAL LETTER L WITH LINE BELOWbSMALL LETTER L WITH LINE BELOW",
  "bCAPITAL LETTER L WITH CIRCUMFLEX BELOWbSMALL LETTER L WITH CIRCUMFLEX BELOW",
  "bCAPITAL LETTER M WITH ACUTEbSMALL LETTER M WITH ACUTEbCAPITAL LETTER M WITH DOT ABOVE",
  "bSMALL LETTER M WITH DOT ABOVEbCAPITAL LETTER M WITH DOT BELOWbSMALL LETTER M WITH DOT BELOW",
  "bCAPITAL LETTER N WITH DOT ABOVEbSMALL LETTER N WITH DOT ABOVE",
  "bCAPITAL LETTER N WITH DOT BELOWbSMALL LETTER N WITH DOT BELOW",
  "bCAPITAL LETTER N WITH LINE BELOWbSMALL LETTER N WITH LINE BELOW",
  "bCAPITAL LETTER N WITH CIRCUMFLEX BELOWbSMALL LETTER N WITH CIRCUMFLEX BELOW",
  "bCAPITAL LETTER O WITH TILDE AND ACUTEbSMALL LETTER O WITH TILDE AND ACUTE",
  "bCAPITAL LETTER O WITH TILDE AND DIAERESISbSMALL LETTER O WITH TILDE AND DIAERESIS",
  "bCAPITAL LETTER O WITH MACRON AND GRAVEbSMALL LETTER O WITH MACRON AND GRAVE",
  "bCAPITAL LETTER O WITH MACRON AND ACUTEbSMALL LETTER O WITH MACRON AND ACUTE",
  "bCAPITAL LETTER P WITH ACUTEbSMALL LETTER P WITH ACUTEbCAPITAL LETTER P WITH DOT ABOVE",
  "bSMALL LETTER P WITH DOT ABOVEbCAPITAL LETTER R WITH DOT ABOVEbSMALL LETTER R WITH DOT ABOVE",
  "bCAPITAL LETTER R WITH DOT BELOWbSMALL LETTER R WITH DOT BELOW",
  "bCAPITAL LETTER R WITH DOT BELOW AND MACRONbSMALL LETTER R WITH DOT BELOW AND MACRON",
  "bCAPITAL LETTER R WITH LINE BELOWbSMALL LETTER R WITH LINE BELOW",
  "bCAPITAL LETTER S WITH DOT ABOVEbSMALL LETTER S WITH DOT ABOVE",
  "bCAPITAL LETTER S WITH DOT BELOWbSMALL LETTER S WITH DOT BELOW",
  "bCAPITAL LETTER S WITH ACUTE AND DOT ABOVEbSMALL LETTER S WITH ACUTE AND DOT ABOVE",
  "bCAPITAL LETTER S WITH CARON AND DOT ABOVEbSMALL LETTER S WITH CARON AND DOT ABOVE",
  "bCAPITAL LETTER S WITH DOT BELOW AND DOT ABOVEbSMALL LETTER S WITH DOT BELOW AND DOT ABOVE",
  "bCAPITAL LETTER T WITH DOT ABOVEbSMALL LETTER T WITH DOT ABOVE",
  "bCAPITAL LETTER T WITH DOT BELOWbSMALL LETTER T WITH DOT BELOW",
  "bCAPITAL LETTER T WITH LINE BELOWbSMALL LETTER T WITH LINE BELOW",
  "bCAPITAL LETTER T WITH CIRCUMFLEX BELOWbSMALL LETTER T WITH CIRCUMFLEX BELOW",
  "bCAPITAL LETTER U WITH DIAERESIS BELOWbSMALL LETTER U WITH DIAERESIS BELOW",
  "bCAPITAL LETTER U WITH TILDE BELOWbSMALL LETTER U WITH TILDE BELOW",
  "bCAPITAL LETTER U WITH CIRCUMFLEX BELOWbSMALL LETTER U WITH CIRCUMFLEX BELOW",
  "bCAPITAL LETTER U WITH TILDE AND ACUTEbSMALL LETTER U WITH TILDE AND ACUTE",
  "bCAPITAL LETTER U WITH MACRON AND DIAERESISbSMALL LETTER U WITH MACRON AND DIAERESIS",
  "bCAPITAL LETTER V WITH TILDEbSMALL LETTER V WITH TILDEbCAPITAL LETTER V WITH DOT BELOW",
  "bSMALL LETTER V WITH DOT BELOWbCAPITAL LETTER W WITH GRAVEbSMALL LETTER W WITH GRAVE",
  "bCAPITAL LETTER W WITH ACUTEbSMALL LETTER W WITH ACUTEbCAPITAL LETTER W WITH DIAERESIS",
  "bSMALL LETTER W WITH DIAERESISbCAPITAL LETTER W WITH DOT ABOVEbSMALL LETTER W WITH DOT ABOVE",
  "bCAPITAL LETTER W WITH DOT BELOWbSMALL LETTER W WITH DOT BELOW",
  "bCAPITAL LETTER X WITH DOT ABOVEbSMALL LETTER X WITH DOT ABOVE",
  "bCAPITAL LETTER X WITH DIAERESISbSMALL LETTER X WITH DIAERESIS",
  "bCAPITAL LETTER Y WITH DOT ABOVEbSMALL LETTER Y WITH DOT ABOVE",
  "bCAPITAL LETTER Z WITH CIRCUMFLEXbSMALL LETTER Z WITH CIRCUMFLEX",
  "bCAPITAL LETTER Z WITH DOT BELOWbSMALL LETTER Z WITH DOT BELOW",
  "bCAPITAL LETTER Z WITH LINE BELOWbSMALL LETTER Z WITH LINE BELOWdH WITH LINE BELOW",
  "dT WITH DIAERESISdW WITH RING ABOVEdY WITH RING ABOVEdA WITH RIGHT HALF RING",
  "dLONG S WITH DOT ABOVEgDIAGONAL STROKEgHIGH STROKEbCAPITAL LETTER SHARP SbSMALL LETTER DELTA",
  "bCAPITAL LETTER A WITH DOT BELOWbSMALL LETTER A WITH DOT BELOW",
  "bCAPITAL LETTER A WITH HOOK ABOVEbSMALL LETTER A WITH HOOK ABOVE",
  "bCAPITAL LETTER A WITH CIRCUMFLEX AND ACUTEbSMALL LETTER A WITH CIRCUMFLEX AND ACUTE",
  "bCAPITAL LETTER A WITH CIRCUMFLEX AND GRAVEbSMALL LETTER A WITH CIRCUMFLEX AND GRAVE",
  "bCAPITAL LETTER A WITH CIRCUMFLEX AND HOOK ABOVE",
  "bSMALL LETTER A WITH CIRCUMFLEX AND HOOK ABOVEbCAPITAL LETTER A WITH CIRCUMFLEX AND TILDE",
  "bSMALL LETTER A WITH CIRCUMFLEX AND TILDEbCAPITAL LETTER A WITH CIRCUMFLEX AND DOT BELOW",
  "bSMALL LETTER A WITH CIRCUMFLEX AND DOT BELOWbCAPITAL LETTER A WITH BREVE AND ACUTE",
  "bSMALL LETTER A WITH BREVE AND ACUTEbCAPITAL LETTER A WITH BREVE AND GRAVE",
  "bSMALL LETTER A WITH BREVE AND GRAVEbCAPITAL LETTER A WITH BREVE AND HOOK ABOVE",
  "bSMALL LETTER A WITH BREVE AND HOOK ABOVEbCAPITAL LETTER A WITH BREVE AND TILDE",
  "bSMALL LETTER A WITH BREVE AND TILDEbCAPITAL LETTER A WITH BREVE AND DOT BELOW",
  "bSMALL LETTER A WITH BREVE AND DOT BELOWbCAPITAL LETTER E WITH DOT BELOW",
  "bSMALL LETTER E WITH DOT BELOWbCAPITAL LETTER E WITH HOOK ABOVE",
  "bSMALL LETTER E WITH HOOK ABOVEbCAPITAL LETTER E WITH TILDEbSMALL LETTER E WITH TILDE",
  "bCAPITAL LETTER E WITH CIRCUMFLEX AND ACUTEbSMALL LETTER E WITH CIRCUMFLEX AND ACUTE",
  "bCAPITAL LETTER E WITH CIRCUMFLEX AND GRAVEbSMALL LETTER E WITH CIRCUMFLEX AND GRAVE",
  "bCAPITAL LETTER E WITH CIRCUMFLEX AND HOOK ABOVE",
  "bSMALL LETTER E WITH CIRCUMFLEX AND HOOK ABOVEbCAPITAL LETTER E WITH CIRCUMFLEX AND TILDE",
  "bSMALL LETTER E WITH CIRCUMFLEX AND TILDEbCAPITAL LETTER E WITH CIRCUMFLEX AND DOT BELOW",
  "bSMALL LETTER E WITH CIRCUMFLEX AND DOT BELOWbCAPITAL LETTER I WITH HOOK ABOVE",
  "bSMALL LETTER I WITH HOOK ABOVEbCAPITAL LETTER I WITH DOT BELOW",
  "bSMALL LETTER I WITH DOT BELOWbCAPITAL LETTER O WITH DOT BELOWbSMALL LETTER O WITH DOT BELOW",
  "bCAPITAL LETTER O WITH HOOK ABOVEbSMALL LETTER O WITH HOOK ABOVE",
  "bCAPITAL LETTER O WITH CIRCUMFLEX AND ACUTEbSMALL LETTER O WITH CIRCUMFLEX AND ACUTE",
  "bCAPITAL LETTER O WITH CIRCUMFLEX AND GRAVEbSMALL LETTER O WITH CIRCUMFLEX AND GRAVE",
  "bCAPITAL LETTER O WITH CIRCUMFLEX AND HOOK ABOVE",
  "bSMALL LETTER O WITH CIRCUMFLEX AND HOOK ABOVEbCAPITAL LETTER O WITH CIRCUMFLEX AND TILDE",
  "bSMALL LETTER O WITH CIRCUMFLEX AND TILDEbCAPITAL LETTER O WITH CIRCUMFLEX AND DOT BELOW",
  "bSMALL LETTER O WITH CIRCUMFLEX AND DOT BELOWbCAPITAL LETTER O WITH HORN AND ACUTE",
  "bSMALL LETTER O WITH HORN AND ACUTEbCAPITAL LETTER O WITH HORN AND GRAVE",
  "bSMALL LETTER O WITH HORN AND GRAVEbCAPITAL LETTER O WITH HORN AND HOOK ABOVE",
  "bSMALL LETTER O WITH HORN AND HOOK ABOVEbCAPITAL LETTER O WITH HORN AND TILDE",
  "bSMALL LETTER O WITH HORN AND TILDEbCAPITAL LETTER O WITH HORN AND DOT BELOW",
  "bSMALL LETTER O WITH HORN AND DOT BELOWbCAPITAL LETTER U WITH DOT BELOW",
  "bSMALL LETTER U WITH DOT BELOWbCAPITAL LETTER U WITH HOOK ABOVE",
  "bSMALL LETTER U WITH HOOK ABOVEbCAPITAL LETTER U WITH HORN AND ACUTE",
  "bSMALL LETTER U WITH HORN AND ACUTEbCAPITAL LETTER U WITH HORN AND GRAVE",
  "bSMALL LETTER U WITH HORN AND GRAVEbCAPITAL LETTER U WITH HORN AND HOOK ABOVE",
  "bSMALL LETTER U WITH HORN AND HOOK ABOVEbCAPITAL LETTER U WITH HORN AND TILDE",
  "bSMALL LETTER U WITH HORN AND TILDEbCAPITAL LETTER U WITH HORN AND DOT BELOW",
  "bSMALL LETTER U WITH HORN AND DOT BELOWbCAPITAL LETTER Y WITH GRAVE",
  "bSMALL LETTER Y WITH GRAVEbCAPITAL LETTER Y WITH DOT BELOWbSMALL LETTER Y WITH DOT BELOW",
  "bCAPITAL LETTER Y WITH HOOK ABOVEbSMALL LETTER Y WITH HOOK ABOVEbCAPITAL LETTER Y WITH TILDE",
  "bSMALL LETTER Y WITH TILDEbCAPITAL LETTER MIDDLE-WELSH LLbSMALL LETTER MIDDLE-WELSH LL",
  "bCAPITAL LETTER MIDDLE-WELSH VbSMALL LETTER MIDDLE-WELSH VbCAPITAL LETTER Y WITH LOOP",
  "bSMALL LETTER Y WITH LOOPaGREEK SMALL LETTER ALPHA WITH PSILIfDASIAfPSILI AND VARIA",
  "fDASIA AND VARIAfPSILI AND OXIAfDASIA AND OXIAfPSILI AND PERISPOMENIfDASIA AND PERISPOMENI",
  "bCAPITAL LETTER ALPHA WITH PSILIfDASIAfPSILI AND VARIAfDASIA AND VARIAfPSILI AND OXIA",
  "fDASIA AND OXIAfPSILI AND PERISPOMENIfDASIA AND PERISPOMENIbSMALL LETTER EPSILON WITH PSILI",
  "fDASIAfPSILI AND VARIAfDASIA AND VARIAfPSILI AND OXIAfDASIA AND OXIA",
  ":1F18bCAPITAL LETTER EPSILON WITH PSILIfDASIAfPSILI AND VARIAfDASIA AND VARIAfPSILI AND OXIA",
  "fDASIA AND OXIA:1F20bSMALL LETTER ETA WITH PSILIfDASIAfPSILI AND VARIAfDASIA AND VARIA",
  "fPSILI AND OXIAfDASIA AND OXIAfPSILI AND PERISPOMENIfDASIA AND PERISPOMENI",
  "bCAPITAL LETTER ETA WITH PSILIfDASIAfPSILI AND VARIAfDASIA AND VARIAfPSILI AND OXIA",
  "fDASIA AND OXIAfPSILI AND PERISPOMENIfDASIA AND PERISPOMENIbSMALL LETTER IOTA WITH PSILI",
  "fDASIAfPSILI AND VARIAfDASIA AND VARIAfPSILI AND OXIAfDASIA AND OXIAfPSILI AND PERISPOMENI",
  "fDASIA AND PERISPOMENIbCAPITAL LETTER IOTA WITH PSILIfDASIAfPSILI AND VARIAfDASIA AND VARIA",
  "fPSILI AND OXIAfDASIA AND OXIAfPSILI AND PERISPOMENIfDASIA AND PERISPOMENI",
  "bSMALL LETTER OMICRON WITH PSILIfDASIAfPSILI AND VARIAfDASIA AND VARIAfPSILI AND OXIA",
  "fDASIA AND OXIA:1F48bCAPITAL LETTER OMICRON WITH PSILIfDASIAfPSILI AND VARIAfDASIA AND VARIA",
  "fPSILI AND OXIAfDASIA AND OXIA:1F50bSMALL LETTER UPSILON WITH PSILIfDASIAfPSILI AND VARIA",
  "fDASIA AND VARIAfPSILI AND OXIAfDASIA AND OXIAfPSILI AND PERISPOMENIfDASIA AND PERISPOMENI",
  ":1F59bCAPITAL LETTER UPSILON WITH DASIA:1F5BgAND VARIA:1F5DhOXIA:1F5FhPERISPOMENI",
  "bSMALL LETTER OMEGA WITH PSILIfDASIAfPSILI AND VARIAfDASIA AND VARIAfPSILI AND OXIA",
  "fDASIA AND OXIAfPSILI AND PERISPOMENIfDASIA AND PERISPOMENIbCAPITAL LETTER OMEGA WITH PSILI",
  "fDASIAfPSILI AND VARIAfDASIA AND VARIAfPSILI AND OXIAfDASIA AND OXIAfPSILI AND PERISPOMENI",
  "fDASIA AND PERISPOMENIbSMALL LETTER ALPHA WITH VARIAfOXIAdEPSILON WITH VARIAfOXIA",
  "dETA WITH VARIAfOXIAdIOTA WITH VARIAfOXIAdOMICRON WITH VARIAfOXIAdUPSILON WITH VARIAfOXIA",
  "dOMEGA WITH VARIAfOXIA:1F80dALPHA WITH PSILI AND YPOGEGRAMMENIfDASIA AND YPOGEGRAMMENI",
  "fPSILI AND VARIA AND YPOGEGRAMMENIfDASIA AND VARIA AND YPOGEGRAMMENI",
  "fPSILI AND OXIA AND YPOGEGRAMMENIfDASIA AND OXIA AND YPOGEGRAMMENI",
  "fPSILI AND PERISPOMENI AND YPOGEGRAMMENIfDASIA AND PERISPOMENI AND YPOGEGRAMMENI",
  "bCAPITAL LETTER ALPHA WITH PSILI AND PROSGEGRAMMENIfDASIA AND PROSGEGRAMMENI",
  "fPSILI AND VARIA AND PROSGEGRAMMENIfDASIA AND VARIA AND PROSGEGRAMMENI",
  "fPSILI AND OXIA AND PROSGEGRAMMENIfDASIA AND OXIA AND PROSGEGRAMMENI",
  "fPSILI AND PERISPOMENI AND PROSGEGRAMMENIfDASIA AND PERISPOMENI AND PROSGEGRAMMENI",
  "bSMALL LETTER ETA WITH PSILI AND YPOGEGRAMMENIfDASIA AND YPOGEGRAMMENI",
  "fPSILI AND VARIA AND YPOGEGRAMMENIfDASIA AND VARIA AND YPOGEGRAMMENI",
  "fPSILI AND OXIA AND YPOGEGRAMMENIfDASIA AND OXIA AND YPOGEGRAMMENI",
  "fPSILI AND PERISPOMENI AND YPOGEGRAMMENIfDASIA AND PERISPOMENI AND YPOGEGRAMMENI",
  "bCAPITAL LETTER ETA WITH PSILI AND PROSGEGRAMMENIfDASIA AND PROSGEGRAMMENI",
  "fPSILI AND VARIA AND PROSGEGRAMMENIfDASIA AND VARIA AND PROSGEGRAMMENI",
  "fPSILI AND OXIA AND PROSGEGRAMMENIfDASIA AND OXIA AND PROSGEGRAMMENI",
  "fPSILI AND PERISPOMENI AND PROSGEGRAMMENIfDASIA AND PERISPOMENI AND PROSGEGRAMMENI",
  "bSMALL LETTER OMEGA WITH PSILI AND YPOGEGRAMMENIfDASIA AND YPOGEGRAMMENI",
  "fPSILI AND VARIA AND YPOGEGRAMMENIfDASIA AND VARIA AND YPOGEGRAMMENI",
  "fPSILI AND OXIA AND YPOGEGRAMMENIfDASIA AND OXIA AND YPOGEGRAMMENI",
  "fPSILI AND PERISPOMENI AND YPOGEGRAMMENIfDASIA AND PERISPOMENI AND YPOGEGRAMMENI",
  "bCAPITAL LETTER OMEGA WITH PSILI AND PROSGEGRAMMENIfDASIA AND PROSGEGRAMMENI",
  "fPSILI AND VARIA AND PROSGEGRAMMENIfDASIA AND VARIA AND PROSGEGRAMMENI",
  "fPSILI AND OXIA AND PROSGEGRAMMENIfDASIA AND OXIA AND PROSGEGRAMMENI",
  "fPSILI AND PERISPOMENI AND PROSGEGRAMMENIfDASIA AND PERISPOMENI AND PROSGEGRAMMENI",
  "bSMALL LETTER ALPHA WITH VRACHYfMACRONfVARIA AND YPOGEGRAMMENIfYPOGEGRAMMENI",
  "fOXIA AND YPOGEGRAMMENI:1FB6fPERISPOMENIgAND YPOGEGRAMMENIbCAPITAL LETTER ALPHA WITH VRACHY",
  "fMACRONfVARIAfOXIAfPROSGEGRAMMENIbKORONISbPROSGEGRAMMENIbPSILIbPERISPOMENI",
  "bDIALYTIKA AND PERISPOMENIbSMALL LETTER ETA WITH VARIA AND YPOGEGRAMMENIfYPOGEGRAMMENI",
  "fOXIA AND YPOGEGRAMMENI:1FC6fPERISPOMENIgAND YPOGEGRAMMENIbCAPITAL LETTER EPSILON WITH VARIA",
  "fOXIAdETA WITH VARIAfOXIAfPROSGEGRAMMENIbPSILI AND VARIAdOXIAdPERISPOMENI",
  "bSMALL LETTER IOTA WITH VRACHYfMACRONfDIALYTIKA AND VARIAhOXIA:1FD6fPERISPOMENI",
  "fDIALYTIKA AND PERISPOMENIbCAPITAL LETTER IOTA WITH VRACHYfMACRONfVARIAfOXIA",
  ":1FDDbDASIA AND VARIAdOXIAdPERISPOMENIbSMALL LETTER UPSILON WITH VRACHYfMACRON",
  "fDIALYTIKA AND VARIAhOXIAdRHO WITH PSILIfDASIAdUPSILON WITH PERISPOMENI",
  "fDIALYTIKA AND PERISPOMENIbCAPITAL LETTER UPSILON WITH VRACHYfMACRONfVARIAfOXIA",
  "dRHO WITH DASIAbDIALYTIKA AND VARIAdOXIAbVARIA",
  ":1FF2bSMALL LETTER OMEGA WITH VARIA AND YPOGEGRAMMENIfYPOGEGRAMMENIfOXIA AND YPOGEGRAMMENI",
  ":1FF6fPERISPOMENIgAND YPOGEGRAMMENIbCAPITAL LETTER OMICRON WITH VARIAfOXIAdOMEGA WITH VARIA",
  "fOXIAfPROSGEGRAMMENIbOXIAbDASIA:2000aEN QUADaEM QUADaEN SPACEaEM SPACEaTHREE-PER-EM SPACE",
  "aFOUR-PER-EM SPACEaSIX-PER-EM SPACEaFIGURE SPACEaPUNCTUATION SPACEaTHIN SPACEaHAIR SPACE",
  "aZERO WIDTH SPACEcNON-JOINERcJOINERaLEFT-TO-RIGHT MARKaRIGHT-TO-LEFT MARKaHYPHEN",
  "aNON-BREAKING HYPHENaFIGURE DASHaEN DASHaEM DASHaHORIZONTAL BARaDOUBLE VERTICAL LINE",
  "bLOW LINEaLEFT SINGLE QUOTATION MARKaRIGHT SINGLE QUOTATION MARKaSINGLE LOW-9 QUOTATION MARK",
  "bHIGH-REVERSED-9 QUOTATION MARKaLEFT DOUBLE QUOTATION MARKaRIGHT DOUBLE QUOTATION MARK",
  "aDOUBLE LOW-9 QUOTATION MARKbHIGH-REVERSED-9 QUOTATION MARKaDAGGERaDOUBLE DAGGERaBULLET",
  "aTRIANGULAR BULLETaONE DOT LEADERaTWO DOT LEADERaHORIZONTAL ELLIPSISaHYPHENATION POINT",
  "aLINE SEPARATORaPARAGRAPH SEPARATORaLEFT-TO-RIGHT EMBEDDINGaRIGHT-TO-LEFT EMBEDDING",
  "aPOP DIRECTIONAL FORMATTINGaLEFT-TO-RIGHT OVERRIDEaRIGHT-TO-LEFT OVERRIDE",
  "aNARROW NO-BREAK SPACEaPER MILLE SIGNbTEN THOUSAND SIGNaPRIMEaDOUBLE PRIMEaTRIPLE PRIME",
  "aREVERSED PRIMEbDOUBLE PRIMEbTRIPLE PRIMEaCARETaSINGLE LEFT-POINTING ANGLE QUOTATION MARK",
  "bRIGHT-POINTING ANGLE QUOTATION MARKaREFERENCE MARKaDOUBLE EXCLAMATION MARKaINTERROBANG",
  "aOVERLINEaUNDERTIEaCHARACTER TIEaCARET INSERTION POINTaASTERISMaHYPHEN BULLETaFRACTION SLASH",
  "aLEFT SQUARE BRACKET WITH QUILLaRIGHT SQUARE BRACKET WITH QUILLaDOUBLE QUESTION MARK",
  "aQUESTION EXCLAMATION MARKaEXCLAMATION QUESTION MARKaTIRONIAN SIGN ETaREVERSED PILCROW SIGN",
  "aBLACK LEFTWARDS BULLETbRIGHTWARDS BULLETaLOW ASTERISKaREVERSED SEMICOLONaCLOSE UP",
  "aTWO ASTERISKS ALIGNED VERTICALLYaCOMMERCIAL MINUS SIGNaSWUNG DASHaINVERTED UNDERTIE",
  "aFLOWER PUNCTUATION MARKaTHREE DOT PUNCTUATIONaQUADRUPLE PRIMEaFOUR DOT PUNCTUATION",
  "aFIVE DOT PUNCTUATIONaTWO DOT PUNCTUATIONaFOUR DOT MARKaDOTTED CROSSaTRICOLON",
  "aVERTICAL FOUR DOTSaMEDIUM MATHEMATICAL SPACEaWORD JOINERaFUNCTION APPLICATION",
  "aINVISIBLE TIMESbSEPARATORbPLUS:2066aLEFT-TO-RIGHT ISOLATEaRIGHT-TO-LEFT ISOLATE",
  "aFIRST STRONG ISOLATEaPOP DIRECTIONAL ISOLATEaINHIBIT SYMMETRIC SWAPPING",
  "aACTIVATE SYMMETRIC SWAPPINGaINHIBIT ARABIC FORM SHAPINGaACTIVATE ARABIC FORM SHAPING",
  "aNATIONAL DIGIT SHAPESaNOMINAL DIGIT SHAPESaSUPERSCRIPT ZERObLATIN SMALL LETTER I:2074bFOUR",
  "bFIVEbSIXbSEVENbEIGHTbNINEbPLUS SIGNbMINUSbEQUALS SIGNbLEFT PARENTHESISbRIGHT PARENTHESIS",
  "bLATIN SMALL LETTER NaSUBSCRIPT ZERObONEbTWObTHREEbFOURbFIVEbSIXbSEVENbEIGHTbNINEbPLUS SIGN",
  "bMINUSbEQUALS SIGNbLEFT PARENTHESISbRIGHT PARENTHESIS:2090aLATIN SUBSCRIPT SMALL LETTER AeE",
  "eOeXeSCHWAeHeKeLeMeNePeSeT:20A0aEURO-CURRENCY SIGNaCOLON SIGNaCRUZEIRO SIGN",
  "aFRENCH FRANC SIGNaLIRA SIGNaMILL SIGNaNAIRA SIGNaPESETA SIGNaRUPEE SIGNaWON SIGN",
  "aNEW SHEQEL SIGNaDONG SIGNaEURO SIGNaKIP SIGNaTUGRIK SIGNaDRACHMA SIGNaGERMAN PENNY SIGN",
  "aPESO SIGNaGUARANI SIGNaAUSTRAL SIGNaHRYVNIA SIGNaCEDI SIGNaLIVRE TOURNOIS SIGN",
  "aSPESMILO SIGNaTENGE SIGNaINDIAN RUPEE SIGNaTURKISH LIRA SIGNaNORDIC MARK SIGNaMANAT SIGN",
  "aRUBLE SIGNaLARI SIGNaBITCOIN SIGNaSOM SIGN:20D0aCOMBINING LEFT HARPOON ABOVE",
  "bRIGHT HARPOON ABOVEbLONG VERTICAL LINE OVERLAYbSHORT VERTICAL LINE OVERLAY",
  "bANTICLOCKWISE ARROW ABOVEbCLOCKWISE ARROW ABOVEbLEFT ARROW ABOVEbRIGHT ARROW ABOVE",
  "bRING OVERLAYbCLOCKWISE RING OVERLAYbANTICLOCKWISE RING OVERLAYbTHREE DOTS ABOVE",
  "bFOUR DOTS ABOVEbENCLOSING CIRCLEcSQUAREcDIAMONDcCIRCLE BACKSLASHbLEFT RIGHT ARROW ABOVE",
  "bENCLOSING SCREENcKEYCAPcUPWARD POINTING TRIANGLEbREVERSE SOLIDUS OVERLAY",
  "bDOUBLE VERTICAL STROKE OVERLAYbANNUITY SYMBOLbTRIPLE UNDERDOTbWIDE BRIDGE ABOVE",
  "bLEFTWARDS ARROW OVERLAYbLONG DOUBLE SOLIDUS OVERLAYbRIGHTWARDS HARPOON WITH BARB DOWNWARDS",
  "bLEFTWARDS HARPOON WITH BARB DOWNWARDSbLEFT ARROW BELOWbRIGHT ARROW BELOWbASTERISK ABOVE",
  ":2100aACCOUNT OFaADDRESSED TO THE SUBJECTaDOUBLE-STRUCK CAPITAL CaDEGREE CELSIUS",
  "aCENTRE LINE SYMBOLaCARE OFaCADA UNAaEULER CONSTANTaSCRUPLEaDEGREE FAHRENHEITaSCRIPT SMALL G",
  "bCAPITAL HaBLACK-LETTER CAPITAL HaDOUBLE-STRUCK CAPITAL HaPLANCK CONSTANTcOVER TWO PI",
  "aSCRIPT CAPITAL IaBLACK-LETTER CAPITAL IaSCRIPT CAPITAL LbSMALL LaL B BAR SYMBOL",
  "aDOUBLE-STRUCK CAPITAL NaNUMERO SIGNaSOUND RECORDING COPYRIGHTaSCRIPT CAPITAL P",
  "aDOUBLE-STRUCK CAPITAL PcQaSCRIPT CAPITAL RaBLACK-LETTER CAPITAL RaDOUBLE-STRUCK CAPITAL R",
  "aPRESCRIPTION TAKEaRESPONSEaSERVICE MARKaTELEPHONE SIGNaTRADE MARK SIGNaVERSICLE",
  "aDOUBLE-STRUCK CAPITAL ZaOUNCE SIGNaOHM SIGNaINVERTED OHM SIGNaBLACK-LETTER CAPITAL Z",
  "aTURNED GREEK SMALL LETTER IOTAaKELVIN SIGNaANGSTROM SIGNaSCRIPT CAPITAL B",
  "aBLACK-LETTER CAPITAL CaESTIMATED SYMBOLaSCRIPT SMALL EbCAPITAL EcFaTURNED CAPITAL F",
  "aSCRIPT CAPITAL MbSMALL OaALEF SYMBOLaBET SYMBOLaGIMEL SYMBOLaDALET SYMBOL",
  "aINFORMATION SOURCEaROTATED CAPITAL QaFACSIMILE SIGNaDOUBLE-STRUCK SMALL PIcGAMMA",
  "bCAPITAL GAMMAcPIbN-ARY SUMMATIONaTURNED SANS-SERIF CAPITAL GdL",
  "aREVERSED SANS-SERIF CAPITAL LaTURNED SANS-SERIF CAPITAL YaDOUBLE-STRUCK ITALIC CAPITAL D",
  "cSMALL DdEdIdJaPROPERTY LINEaTURNED AMPERSANDaPER SIGNaAKTIESELSKABaTURNED SMALL F",
  "aSYMBOL FOR SAMARITAN SOURCEaVULGAR FRACTION ONE SEVENTHdNINTHdTENTHdTHIRDcTWO THIRDS",
  "cONE FIFTHcTWO FIFTHScTHREE FIFTHScFOUR FIFTHScONE SIXTHcFIVE SIXTHScONE EIGHTH",
  "cTHREE EIGHTHScFIVE EIGHTHScSEVEN EIGHTHSaFRACTION NUMERATOR ONEaROMAN NUMERAL ONEcTWOcTHREE",
  "cFOURcFIVEcSIXcSEVENcEIGHTcNINEcTENcELEVENcTWELVEcFIFTYcONE HUNDREDcFIVE HUNDRED",
  "cONE THOUSANDaSMALL ROMAN NUMERAL ONEdTWOdTHREEdFOURdFIVEdSIXdSEVENdEIGHTdNINEdTENdELEVEN",
  "dTWELVEdFIFTYdONE HUNDREDdFIVE HUNDREDdONE THOUSANDaROMAN NUMERAL ONE THOUSAND C D",
  "cFIVE THOUSANDcTEN THOUSANDcREVERSED ONE HUNDREDaLATIN SMALL LETTER REVERSED C",
  "aROMAN NUMERAL SIX LATE FORMcFIFTY EARLY FORMdTHOUSANDcONE HUNDRED THOUSAND",
  "aVULGAR FRACTION ZERO THIRDSaTURNED DIGIT TWOcTHREE:2190aLEFTWARDS ARROWaUPWARDS ARROW",
  "aRIGHTWARDS ARROWaDOWNWARDS ARROWaLEFT RIGHT ARROWaUP DOWN ARROWaNORTH WEST ARROWbEAST ARROW",
  "aSOUTH EAST ARROWbWEST ARROWaLEFTWARDS ARROW WITH STROKEaRIGHTWARDS ARROW WITH STROKE",
  "aLEFTWARDS WAVE ARROWaRIGHTWARDS WAVE ARROWaLEFTWARDS TWO HEADED ARROW",
  "aUPWARDS TWO HEADED ARROWaRIGHTWARDS TWO HEADED ARROWaDOWNWARDS TWO HEADED ARROW",
  "aLEFTWARDS ARROW WITH TAILaRIGHTWARDS ARROW WITH TAILaLEFTWARDS ARROW FROM BAR",
  "aUPWARDS ARROW FROM BARaRIGHTWARDS ARROW FROM BARaDOWNWARDS ARROW FROM BAR",
  "aUP DOWN ARROW WITH BASEaLEFTWARDS ARROW WITH HOOKaRIGHTWARDS ARROW WITH HOOK",
  "aLEFTWARDS ARROW WITH LOOPaRIGHTWARDS ARROW WITH LOOPaLEFT RIGHT WAVE ARROW",
  "cARROW WITH STROKEaDOWNWARDS ZIGZAG ARROWaUPWARDS ARROW WITH TIP LEFTWARDSeRIGHTWARDS",
  "aDOWNWARDS ARROW WITH TIP LEFTWARDSeRIGHTWARDSaRIGHTWARDS ARROW WITH CORNER DOWNWARDS",
  "aDOWNWARDS ARROW WITH CORNER LEFTWARDSaANTICLOCKWISE TOP SEMICIRCLE ARROW",
  "aCLOCKWISE TOP SEMICIRCLE ARROWaNORTH WEST ARROW TO LONG BAR",
  "aLEFTWARDS ARROW TO BAR OVER RIGHTWARDS ARROW TO BARaANTICLOCKWISE OPEN CIRCLE ARROW",
  "aCLOCKWISE OPEN CIRCLE ARROWaLEFTWARDS HARPOON WITH BARB UPWARDSeDOWNWARDS",
  "aUPWARDS HARPOON WITH BARB RIGHTWARDSeLEFTWARDSaRIGHTWARDS HARPOON WITH BARB UPWARDS",
  "eDOWNWARDSaDOWNWARDS HARPOON WITH BARB RIGHTWARDSeLEFTWARDS",
  "aRIGHTWARDS ARROW OVER LEFTWARDS ARROWaUPWARDS ARROW LEFTWARDS OF DOWNWARDS ARROW",
  "aLEFTWARDS ARROW OVER RIGHTWARDS ARROWbPAIRED ARROWSaUPWARDS PAIRED ARROWS",
  "aRIGHTWARDS PAIRED ARROWSaDOWNWARDS PAIRED ARROWSaLEFTWARDS HARPOON OVER RIGHTWARDS HARPOON",
  "aRIGHTWARDS HARPOON OVER LEFTWARDS HARPOONaLEFTWARDS DOUBLE ARROW WITH STROKE",
  "aLEFT RIGHT DOUBLE ARROW WITH STROKEaRIGHTWARDS DOUBLE ARROW WITH STROKE",
  "aLEFTWARDS DOUBLE ARROWaUPWARDS DOUBLE ARROWaRIGHTWARDS DOUBLE ARROWaDOWNWARDS DOUBLE ARROW",
  "aLEFT RIGHT DOUBLE ARROWaUP DOWN DOUBLE ARROWaNORTH WEST DOUBLE ARROWbEAST DOUBLE ARROW",
  "aSOUTH EAST DOUBLE ARROWbWEST DOUBLE ARROWaLEFTWARDS TRIPLE ARROWaRIGHTWARDS TRIPLE ARROW",
  "aLEFTWARDS SQUIGGLE ARROWaRIGHTWARDS SQUIGGLE ARROWaUPWARDS ARROW WITH DOUBLE STROKE",
  "aDOWNWARDS ARROW WITH DOUBLE STROKEaLEFTWARDS DASHED ARROWaUPWARDS DASHED ARROW",
  "aRIGHTWARDS DASHED ARROWaDOWNWARDS DASHED ARROWaLEFTWARDS ARROW TO BAR",
  "aRIGHTWARDS ARROW TO BARaLEFTWARDS WHITE ARROWaUPWARDS WHITE ARROWaRIGHTWARDS WHITE ARROW",
  "aDOWNWARDS WHITE ARROWaUPWARDS WHITE ARROW FROM BARdON PEDESTALfWITH HORIZONTAL BAR",
  "gVERTICAL BARcDOUBLE ARROWeON PEDESTALaRIGHTWARDS WHITE ARROW FROM WALL",
  "aNORTH WEST ARROW TO CORNERaSOUTH EAST ARROW TO CORNERaUP DOWN WHITE ARROW",
  "aRIGHT ARROW WITH SMALL CIRCLEaDOWNWARDS ARROW LEFTWARDS OF UPWARDS ARROW",
  "aTHREE RIGHTWARDS ARROWSaLEFTWARDS ARROW WITH VERTICAL STROKE",
  "aRIGHTWARDS ARROW WITH VERTICAL STROKEaLEFT RIGHT ARROW WITH VERTICAL STROKE",
  "aLEFTWARDS ARROW WITH DOUBLE VERTICAL STROKEaRIGHTWARDS ARROW WITH DOUBLE VERTICAL STROKE",
  "aLEFT RIGHT ARROW WITH DOUBLE VERTICAL STROKEaLEFTWARDS OPEN-HEADED ARROW",
  "aRIGHTWARDS OPEN-HEADED ARROWaLEFT RIGHT OPEN-HEADED ARROWaFOR ALLaCOMPLEMENT",
  "aPARTIAL DIFFERENTIALaTHERE EXISTSbDOES NOT EXISTaEMPTY SETaINCREMENTaNABLAaELEMENT OF",
  "aNOT AN ELEMENT OFaSMALL ELEMENT OFaCONTAINS AS MEMBERaDOES NOT CONTAIN AS MEMBER",
  "aSMALL CONTAINS AS MEMBERaEND OF PROOFaN-ARY PRODUCTbCOPRODUCTbSUMMATIONaMINUS SIGN",
  "aMINUS-OR-PLUS SIGNaDOT PLUSaDIVISION SLASHaSET MINUSaASTERISK OPERATORaRING OPERATOR",
  "aBULLET OPERATORaSQUARE ROOTaCUBE ROOTaFOURTH ROOTaPROPORTIONAL TOaINFINITYaRIGHT ANGLE",
  "aANGLEaMEASURED ANGLEaSPHERICAL ANGLEaDIVIDESaDOES NOT DIVIDEaPARALLEL TOaNOT PARALLEL TO",
  "aLOGICAL ANDbORaINTERSECTIONaUNIONaINTEGRALaDOUBLE INTEGRALaTRIPLE INTEGRALaCONTOUR INTEGRAL",
  "aSURFACE INTEGRALaVOLUME INTEGRALaCLOCKWISE INTEGRALbCONTOUR INTEGRAL",
  "aANTICLOCKWISE CONTOUR INTEGRALaTHEREFOREaBECAUSEaRATIOaPROPORTIONaDOT MINUSaEXCESS",
  "aGEOMETRIC PROPORTIONaHOMOTHETICaTILDE OPERATORaREVERSED TILDEaINVERTED LAZY SaSINE WAVE",
  "aWREATH PRODUCTaNOT TILDEaMINUS TILDEaASYMPTOTICALLY EQUAL TOaNOT ASYMPTOTICALLY EQUAL TO",
  "aAPPROXIMATELY EQUAL TObBUT NOT ACTUALLY EQUAL TO",
  "aNEITHER APPROXIMATELY NOR ACTUALLY EQUAL TOaALMOST EQUAL TOaNOT ALMOST EQUAL TO",
  "aALMOST EQUAL OR EQUAL TOaTRIPLE TILDEaALL EQUAL TOaEQUIVALENT TO",
  "aGEOMETRICALLY EQUIVALENT TOaDIFFERENCE BETWEENaAPPROACHES THE LIMITaGEOMETRICALLY EQUAL TO",
  "aAPPROXIMATELY EQUAL TO OR THE IMAGE OFaIMAGE OF OR APPROXIMATELY EQUAL TOaCOLON EQUALS",
  "aEQUALS COLONaRING IN EQUAL TObEQUAL TOaCORRESPONDS TOaESTIMATESaEQUIANGULAR TOaSTAR EQUALS",
  "aDELTA EQUAL TOaEQUAL TO BY DEFINITIONaMEASURED BYaQUESTIONED EQUAL TOaNOT EQUAL TO",
  "aIDENTICAL TOaNOT IDENTICAL TOaSTRICTLY EQUIVALENT TOaLESS-THAN OR EQUAL TO",
  "aGREATER-THAN OR EQUAL TOaLESS-THAN OVER EQUAL TOaGREATER-THAN OVER EQUAL TO",
  "aLESS-THAN BUT NOT EQUAL TOaGREATER-THAN BUT NOT EQUAL TOaMUCH LESS-THANbGREATER-THAN",
  "aBETWEENaNOT EQUIVALENT TObLESS-THANbGREATER-THANaNEITHER LESS-THAN NOR EQUAL TO",
  "bGREATER-THAN NOR EQUAL TOaLESS-THAN OR EQUIVALENT TOaGREATER-THAN OR EQUIVALENT TO",
  "aNEITHER LESS-THAN NOR EQUIVALENT TObGREATER-THAN NOR EQUIVALENT TO",
  "aLESS-THAN OR GREATER-THANaGREATER-THAN OR LESS-THANaNEITHER LESS-THAN NOR GREATER-THAN",
  "bGREATER-THAN NOR LESS-THANaPRECEDESaSUCCEEDSaPRECEDES OR EQUAL TOaSUCCEEDS OR EQUAL TO",
  "aPRECEDES OR EQUIVALENT TOaSUCCEEDS OR EQUIVALENT TOaDOES NOT PRECEDEcSUCCEEDaSUBSET OF",
  "aSUPERSET OFaNOT A SUBSET OFcSUPERSET OFaSUBSET OF OR EQUAL TOaSUPERSET OF OR EQUAL TO",
  "aNEITHER A SUBSET OF NOR EQUAL TOcSUPERSET OF NOR EQUAL TOaSUBSET OF WITH NOT EQUAL TO",
  "aSUPERSET OF WITH NOT EQUAL TOaMULTISETbMULTIPLICATIONbUNIONaSQUARE IMAGE OFbORIGINAL OF",
  "bIMAGE OF OR EQUAL TObORIGINAL OF OR EQUAL TObCAPbCUPaCIRCLED PLUSbMINUSbTIMES",
  "bDIVISION SLASHbDOT OPERATORbRING OPERATORbASTERISK OPERATORbEQUALSbDASHaSQUARED PLUSbMINUS",
  "bTIMESbDOT OPERATORaRIGHT TACKaLEFT TACKaDOWN TACKaUP TACKaASSERTIONaMODELSaTRUEaFORCES",
  "aTRIPLE VERTICAL BAR RIGHT TURNSTILEaDOUBLE VERTICAL BAR DOUBLE RIGHT TURNSTILE",
  "aDOES NOT PROVEaNOT TRUEaDOES NOT FORCEaNEGATED DOUBLE VERTICAL BAR DOUBLE RIGHT TURNSTILE",
  "aPRECEDES UNDER RELATIONaSUCCEEDS UNDER RELATIONaNORMAL SUBGROUP OF",
  "aCONTAINS AS NORMAL SUBGROUPaNORMAL SUBGROUP OF OR EQUAL TO",
  "aCONTAINS AS NORMAL SUBGROUP OR EQUAL TOaORIGINAL OFaIMAGE OFaMULTIMAP",
  "aHERMITIAN CONJUGATE MATRIXaINTERCALATEaXORaNANDaNORaRIGHT ANGLE WITH ARCbTRIANGLE",
  "aN-ARY LOGICAL ANDcORbINTERSECTIONbUNIONaDIAMOND OPERATORaDOT OPERATORaSTAR OPERATOR",
  "aDIVISION TIMESaBOWTIEaLEFT NORMAL FACTOR SEMIDIRECT PRODUCT",
  "aRIGHT NORMAL FACTOR SEMIDIRECT PRODUCTaLEFT SEMIDIRECT PRODUCTaRIGHT SEMIDIRECT PRODUCT",
  "aREVERSED TILDE EQUALSaCURLY LOGICAL ORcANDaDOUBLE SUBSETbSUPERSETbINTERSECTIONbUNION",
  "aPITCHFORKaEQUAL AND PARALLEL TOaLESS-THAN WITH DOTaGREATER-THAN WITH DOT",
  "aVERY MUCH LESS-THANcGREATER-THANaLESS-THAN EQUAL TO OR GREATER-THAN",
  "aGREATER-THAN EQUAL TO OR LESS-THANaEQUAL TO OR LESS-THANdGREATER-THANdPRECEDESdSUCCEEDS",
  "aDOES NOT PRECEDE OR EQUALcSUCCEED OR EQUALaNOT SQUARE IMAGE OF OR EQUAL TO",
  "cORIGINAL OF OR EQUAL TOaSQUARE IMAGE OF OR NOT EQUAL TObORIGINAL OF OR NOT EQUAL TO",
  "aLESS-THAN BUT NOT EQUIVALENT TOaGREATER-THAN BUT NOT EQUIVALENT TO",
  "aPRECEDES BUT NOT EQUIVALENT TOaSUCCEEDS BUT NOT EQUIVALENT TOaNOT NORMAL SUBGROUP OF",
  "aDOES NOT CONTAIN AS NORMAL SUBGROUPaNOT NORMAL SUBGROUP OF OR EQUAL TO",
  "aDOES NOT CONTAIN AS NORMAL SUBGROUP OR EQUALaVERTICAL ELLIPSISaMIDLINE HORIZONTAL ELLIPSIS",
  "aUP RIGHT DIAGONAL ELLIPSISaDOWN RIGHT DIAGONAL ELLIPSIS",
  "aELEMENT OF WITH LONG HORIZONTAL STROKEdVERTICAL BAR AT END OF HORIZONTAL STROKE",
  "aSMALL ELEMENT OF WITH VERTICAL BAR AT END OF HORIZONTAL STROKEaELEMENT OF WITH DOT ABOVE",
  "dOVERBARaSMALL ELEMENT OF WITH OVERBARaELEMENT OF WITH UNDERBARdTWO HORIZONTAL STROKES",
  "aCONTAINS WITH LONG HORIZONTAL STROKEcVERTICAL BAR AT END OF HORIZONTAL STROKE",
  "aSMALL CONTAINS WITH VERTICAL BAR AT END OF HORIZONTAL STROKEaCONTAINS WITH OVERBAR",
  "aSMALL CONTAINS WITH OVERBARaZ NOTATION BAG MEMBERSHIPaDIAMETER SIGNaELECTRIC ARROWaHOUSE",
  "aUP ARROWHEADaDOWN ARROWHEADaPROJECTIVEaPERSPECTIVEaWAVY LINEaLEFT CEILINGaRIGHT CEILING",
  "aLEFT FLOORaRIGHT FLOORaBOTTOM RIGHT CROPbLEFT CROPaTOP RIGHT CROPbLEFT CROP",
  "aREVERSED NOT SIGNaSQUARE LOZENGEaARCaSEGMENTaSECTORaTELEPHONE RECORDERaPOSITION INDICATOR",
  "aVIEWDATA SQUAREaPLACE OF INTEREST SIGNaTURNED NOT SIGNaWATCHaHOURGLASSaTOP LEFT CORNER",
  "bRIGHT CORNERaBOTTOM LEFT CORNERbRIGHT CORNERaTOP HALF INTEGRALaBOTTOM HALF INTEGRALaFROWN",
  "aSMILEaUP ARROWHEAD BETWEEN TWO HORIZONTAL BARSaOPTION KEYaERASE TO THE RIGHT",
  "aX IN A RECTANGLE BOXaKEYBOARDaLEFT-POINTING ANGLE BRACKETaRIGHT-POINTING ANGLE BRACKET",
  "aERASE TO THE LEFTaBENZENE RINGaCYLINDRICITYaALL AROUND-PROFILEaSYMMETRYaTOTAL RUNOUT",
  "aDIMENSION ORIGINaCONICAL TAPERaSLOPEaCOUNTERBOREaCOUNTERSINKaAPL FUNCTIONAL SYMBOL I-BEAM",
  "dSQUISH QUADdQUAD EQUALeDIVIDEeDIAMONDeJOTeCIRCLEdCIRCLE STILEeJOTdSLASH BARdBACKSLASH BAR",
  "dQUAD SLASHeBACKSLASHeLESS-THANeGREATER-THANdLEFTWARDS VANEdRIGHTWARDS VANE",
  "dQUAD LEFTWARDS ARROWeRIGHTWARDS ARROWdCIRCLE BACKSLASHdDOWN TACK UNDERBARdDELTA STILE",
  "dQUAD DOWN CARETeDELTAdDOWN TACK JOTdUPWARDS VANEdQUAD UPWARDS ARROWdUP TACK OVERBAR",
  "dDEL STILEdQUAD UP CARETeDELdUP TACK JOTdDOWNWARDS VANEdQUAD DOWNWARDS ARROWdQUOTE UNDERBAR",
  "dDELTA UNDERBARdDIAMOND UNDERBARdJOT UNDERBARdCIRCLE UNDERBARdUP SHOE JOTdQUOTE QUAD",
  "dCIRCLE STARdQUAD COLONdUP TACK DIAERESISdDEL DIAERESISdSTAR DIAERESISdJOT DIAERESIS",
  "dCIRCLE DIAERESISdDOWN SHOE STILEdLEFT SHOE STILEdTILDE DIAERESISdGREATER-THAN DIAERESIS",
  "dCOMMA BARdDEL TILDEdZILDEdSTILE TILDEdSEMICOLON UNDERBARdQUAD NOT EQUALeQUESTION",
  "dDOWN CARET TILDEdUP CARET TILDEdIOTAdRHOdOMEGAdALPHA UNDERBARdEPSILON UNDERBAR",
  "dIOTA UNDERBARdOMEGA UNDERBARdALPHAaNOT CHECK MARKaRIGHT ANGLE WITH DOWNWARDS ZIGZAG ARROW",
  "aSHOULDERED OPEN BOXaBELL SYMBOLaVERTICAL LINE WITH MIDDLE DOTaINSERTION SYMBOL",
  "aCONTINUOUS UNDERLINE SYMBOLaDISCONTINUOUS UNDERLINE SYMBOLaEMPHASIS SYMBOL",
  "aCOMPOSITION SYMBOLaWHITE SQUARE WITH CENTRE VERTICAL LINEaENTER SYMBOL",
  "aALTERNATIVE KEY SYMBOLaHELM SYMBOLaCIRCLED HORIZONTAL BAR WITH NOTCHbTRIANGLE DOWN",
  "aBROKEN CIRCLE WITH NORTHWEST ARROWaUNDO SYMBOLaMONOSTABLE SYMBOLaHYSTERESIS SYMBOL",
  "aOPEN-CIRCUIT-OUTPUT H-TYPE SYMBOLbL-TYPE SYMBOLaPASSIVE-PULL-DOWN-OUTPUT SYMBOL",
  "aPASSIVE-PULL-UP-OUTPUT SYMBOLaDIRECT CURRENT SYMBOL FORM TWOaSOFTWARE-FUNCTION SYMBOL",
  "aAPL FUNCTIONAL SYMBOL QUADaDECIMAL SEPARATOR KEY SYMBOLaPREVIOUS PAGEaNEXT PAGE",
  "aPRINT SCREEN SYMBOLaCLEAR SCREEN SYMBOLaLEFT PARENTHESIS UPPER HOOKcEXTENSIONcLOWER HOOK",
  "aRIGHT PARENTHESIS UPPER HOOKcEXTENSIONcLOWER HOOKaLEFT SQUARE BRACKET UPPER CORNER",
  "dEXTENSIONdLOWER CORNERaRIGHT SQUARE BRACKET UPPER CORNERdEXTENSIONdLOWER CORNER",
  "aLEFT CURLY BRACKET UPPER HOOKdMIDDLE PIECEdLOWER HOOKaCURLY BRACKET EXTENSION",
  "aRIGHT CURLY BRACKET UPPER HOOKdMIDDLE PIECEdLOWER HOOKaINTEGRAL EXTENSION",
  "aHORIZONTAL LINE EXTENSIONaUPPER LEFT OR LOWER RIGHT CURLY BRACKET SECTION",
  "bRIGHT OR LOWER LEFT CURLY BRACKET SECTIONaSUMMATION TOPbBOTTOMaTOP SQUARE BRACKET",
  "aBOTTOM SQUARE BRACKETdOVER TOP SQUARE BRACKETaRADICAL SYMBOL BOTTOMaLEFT VERTICAL BOX LINE",
  "aRIGHT VERTICAL BOX LINEaHORIZONTAL SCAN LINE-1cLINE-3cLINE-7cLINE-9",
  "aDENTISTRY SYMBOL LIGHT VERTICAL AND TOP RIGHTfBOTTOM RIGHTeWITH CIRCLE",
  "dDOWN AND HORIZONTAL WITH CIRCLEdUP AND HORIZONTAL WITH CIRCLEdVERTICAL WITH TRIANGLE",
  "dDOWN AND HORIZONTAL WITH TRIANGLEdUP AND HORIZONTAL WITH TRIANGLEdVERTICAL AND WAVE",
  "dDOWN AND HORIZONTAL WITH WAVEdUP AND HORIZONTAL WITH WAVEdDOWN AND HORIZONTAL",
  "dUP AND HORIZONTALdVERTICAL AND TOP LEFTfBOTTOM LEFTaSQUARE FOOTaRETURN SYMBOLaEJECT SYMBOL",
  "aVERTICAL LINE EXTENSIONaMETRICAL BREVEbLONG OVER SHORTbSHORT OVER LONGbLONG OVER TWO SHORTS",
  "bTWO SHORTS OVER LONGdJOINEDbTRISEMEbTETRASEMEbPENTASEMEaEARTH GROUNDaFUSEaTOP PARENTHESIS",
  "aBOTTOM PARENTHESISaTOP CURLY BRACKETaBOTTOM CURLY BRACKETaTOP TORTOISE SHELL BRACKET",
  "aBOTTOM TORTOISE SHELL BRACKETaWHITE TRAPEZIUMaBENZENE RING WITH CIRCLEaSTRAIGHTNESS",
  "aFLATNESSaAC CURRENTaELECTRICAL INTERSECTIONaDECIMAL EXPONENT SYMBOL",
  "aBLACK RIGHT-POINTING DOUBLE TRIANGLEbLEFT-POINTING DOUBLE TRIANGLE",
  "bUP-POINTING DOUBLE TRIANGLEbDOWN-POINTING DOUBLE TRIANGLE",
  "bRIGHT-POINTING DOUBLE TRIANGLE WITH VERTICAL BAR",
  "bLEFT-POINTING DOUBLE TRIANGLE WITH VERTICAL BAR",
  "bRIGHT-POINTING TRIANGLE WITH DOUBLE VERTICAL BARaALARM CLOCKaSTOPWATCHaTIMER CLOCK",
  "aHOURGLASS WITH FLOWING SANDaBLACK MEDIUM LEFT-POINTING TRIANGLEcRIGHT-POINTING TRIANGLE",
  "cUP-POINTING TRIANGLEcDOWN-POINTING TRIANGLEaDOUBLE VERTICAL BARaBLACK SQUARE FOR STOP",
  "bCIRCLE FOR RECORDaPOWER SYMBOLbON-OFF SYMBOLbON SYMBOLbSLEEP SYMBOLaOBSERVER EYE SYMBOL",
  "aSYMBOL FOR NULLcSTART OF HEADINGeTEXTcEND OF TEXTeTRANSMISSIONcENQUIRYcACKNOWLEDGEcBELL",
  "cBACKSPACEcHORIZONTAL TABULATIONcLINE FEEDcVERTICAL TABULATIONcFORM FEEDcCARRIAGE RETURN",
  "cSHIFT OUTdINcDATA LINK ESCAPEcDEVICE CONTROL ONEeTWOeTHREEeFOURcNEGATIVE ACKNOWLEDGE",
  "cSYNCHRONOUS IDLEcEND OF TRANSMISSION BLOCKcCANCELcEND OF MEDIUMcSUBSTITUTEcESCAPE",
  "cFILE SEPARATORcGROUP SEPARATORcRECORD SEPARATORcUNIT SEPARATORcSPACEcDELETEaBLANK SYMBOL",
  "aOPEN BOXaSYMBOL FOR NEWLINEcDELETE FORM TWOcSUBSTITUTE FORM TWO:2440aOCR HOOKbCHAIRbFORK",
  "bINVERTED FORKbBELT BUCKLEbBOW TIEbBRANCH BANK IDENTIFICATIONbAMOUNT OF CHECKbDASH",
  "bCUSTOMER ACCOUNT NUMBERbDOUBLE BACKSLASH:2460aCIRCLED DIGIT ONEcTWOcTHREEcFOURcFIVEcSIX",
  "cSEVENcEIGHTcNINEbNUMBER TENcELEVENcTWELVEcTHIRTEENcFOURTEENcFIFTEENcSIXTEENcSEVENTEEN",
  "cEIGHTEENcNINETEENcTWENTYaPARENTHESIZED DIGIT ONEcTWOcTHREEcFOURcFIVEcSIXcSEVENcEIGHTcNINE",
  "bNUMBER TENcELEVENcTWELVEcTHIRTEENcFOURTEENcFIFTEENcSIXTEENcSEVENTEENcEIGHTEENcNINETEEN",
  "cTWENTYaDIGIT ONE FULL STOPbTWO FULL STOPbTHREE FULL STOPbFOUR FULL STOPbFIVE FULL STOP",
  "bSIX FULL STOPbSEVEN FULL STOPbEIGHT FULL STOPbNINE FULL STOPaNUMBER TEN FULL STOP",
  "bELEVEN FULL STOPbTWELVE FULL STOPbTHIRTEEN FULL STOPbFOURTEEN FULL STOPbFIFTEEN FULL STOP",
  "bSIXTEEN FULL STOPbSEVENTEEN FULL STOPbEIGHTEEN FULL STOPbNINETEEN FULL STOP",
  "bTWENTY FULL STOPaPARENTHESIZED LATIN SMALL LETTER AeBeCeDeEeFeGeHeIeJeKeLeMeNeOePeQeReSeTeU",
  "eVeWeXeYeZaCIRCLED LATIN CAPITAL LETTER AeBeCeDeEeFeGeHeIeJeKeLeMeNeOePeQeReSeTeUeVeWeXeYeZ",
  "cSMALL LETTER AeBeCeDeEeFeGeHeIeJeKeLeMeNeOePeQeReSeTeUeVeWeXeYeZbDIGIT ZERO",
  "aNEGATIVE CIRCLED NUMBER ELEVENdTWELVEdTHIRTEENdFOURTEENdFIFTEENdSIXTEENdSEVENTEENdEIGHTEEN",
  "dNINETEENdTWENTYaDOUBLE CIRCLED DIGIT ONEdTWOdTHREEdFOURdFIVEdSIXdSEVENdEIGHTdNINE",
  "cNUMBER TENaNEGATIVE CIRCLED DIGIT ZEROaBOX DRAWINGS LIGHT HORIZONTALcHEAVY HORIZONTAL",
  "cLIGHT VERTICALcHEAVY VERTICALcLIGHT TRIPLE DASH HORIZONTALcHEAVY TRIPLE DASH HORIZONTAL",
  "cLIGHT TRIPLE DASH VERTICALcHEAVY TRIPLE DASH VERTICALcLIGHT QUADRUPLE DASH HORIZONTAL",
  "cHEAVY QUADRUPLE DASH HORIZONTALcLIGHT QUADRUPLE DASH VERTICALcHEAVY QUADRUPLE DASH VERTICAL",
  "cLIGHT DOWN AND RIGHTcDOWN LIGHT AND RIGHT HEAVYdHEAVY AND RIGHT LIGHTcHEAVY DOWN AND RIGHT",
  "cLIGHT DOWN AND LEFTcDOWN LIGHT AND LEFT HEAVYdHEAVY AND LEFT LIGHTcHEAVY DOWN AND LEFT",
  "cLIGHT UP AND RIGHTcUP LIGHT AND RIGHT HEAVYdHEAVY AND RIGHT LIGHTcHEAVY UP AND RIGHT",
  "cLIGHT UP AND LEFTcUP LIGHT AND LEFT HEAVYdHEAVY AND LEFT LIGHTcHEAVY UP AND LEFT",
  "cLIGHT VERTICAL AND RIGHTcVERTICAL LIGHT AND RIGHT HEAVYcUP HEAVY AND RIGHT DOWN LIGHT",
  "cDOWN HEAVY AND RIGHT UP LIGHTcVERTICAL HEAVY AND RIGHT LIGHTcDOWN LIGHT AND RIGHT UP HEAVY",
  "cUP LIGHT AND RIGHT DOWN HEAVYcHEAVY VERTICAL AND RIGHTcLIGHT VERTICAL AND LEFT",
  "cVERTICAL LIGHT AND LEFT HEAVYcUP HEAVY AND LEFT DOWN LIGHTcDOWN HEAVY AND LEFT UP LIGHT",
  "cVERTICAL HEAVY AND LEFT LIGHTcDOWN LIGHT AND LEFT UP HEAVYcUP LIGHT AND LEFT DOWN HEAVY",
  "cHEAVY VERTICAL AND LEFTcLIGHT DOWN AND HORIZONTALcLEFT HEAVY AND RIGHT DOWN LIGHT",
  "cRIGHT HEAVY AND LEFT DOWN LIGHTcDOWN LIGHT AND HORIZONTAL HEAVYdHEAVY AND HORIZONTAL LIGHT",
  "cRIGHT LIGHT AND LEFT DOWN HEAVYcLEFT LIGHT AND RIGHT DOWN HEAVYcHEAVY DOWN AND HORIZONTAL",
  "cLIGHT UP AND HORIZONTALcLEFT HEAVY AND RIGHT UP LIGHTcRIGHT HEAVY AND LEFT UP LIGHT",
  "cUP LIGHT AND HORIZONTAL HEAVYdHEAVY AND HORIZONTAL LIGHTcRIGHT LIGHT AND LEFT UP HEAVY",
  "cLEFT LIGHT AND RIGHT UP HEAVYcHEAVY UP AND HORIZONTALcLIGHT VERTICAL AND HORIZONTAL",
  "cLEFT HEAVY AND RIGHT VERTICAL LIGHTcRIGHT HEAVY AND LEFT VERTICAL LIGHT",
  "cVERTICAL LIGHT AND HORIZONTAL HEAVYcUP HEAVY AND DOWN HORIZONTAL LIGHT",
  "cDOWN HEAVY AND UP HORIZONTAL LIGHTcVERTICAL HEAVY AND HORIZONTAL LIGHT",
  "cLEFT UP HEAVY AND RIGHT DOWN LIGHTcRIGHT UP HEAVY AND LEFT DOWN LIGHT",
  "cLEFT DOWN HEAVY AND RIGHT UP LIGHTcRIGHT DOWN HEAVY AND LEFT UP LIGHT",
  "cDOWN LIGHT AND UP HORIZONTAL HEAVYcUP LIGHT AND DOWN HORIZONTAL HEAVY",
  "cRIGHT LIGHT AND LEFT VERTICAL HEAVYcLEFT LIGHT AND RIGHT VERTICAL HEAVY",
  "cHEAVY VERTICAL AND HORIZONTALcLIGHT DOUBLE DASH HORIZONTALcHEAVY DOUBLE DASH HORIZONTAL",
  "cLIGHT DOUBLE DASH VERTICALcHEAVY DOUBLE DASH VERTICALcDOUBLE HORIZONTALdVERTICAL",
  "cDOWN SINGLE AND RIGHT DOUBLEdDOUBLE AND RIGHT SINGLEcDOUBLE DOWN AND RIGHT",
  "cDOWN SINGLE AND LEFT DOUBLEdDOUBLE AND LEFT SINGLEcDOUBLE DOWN AND LEFT",
  "cUP SINGLE AND RIGHT DOUBLEdDOUBLE AND RIGHT SINGLEcDOUBLE UP AND RIGHT",
  "cUP SINGLE AND LEFT DOUBLEdDOUBLE AND LEFT SINGLEcDOUBLE UP AND LEFT",
  "cVERTICAL SINGLE AND RIGHT DOUBLEdDOUBLE AND RIGHT SINGLEcDOUBLE VERTICAL AND RIGHT",
  "cVERTICAL SINGLE AND LEFT DOUBLEdDOUBLE AND LEFT SINGLEcDOUBLE VERTICAL AND LEFT",
  "cDOWN SINGLE AND HORIZONTAL DOUBLEdDOUBLE AND HORIZONTAL SINGLEcDOUBLE DOWN AND HORIZONTAL",
  "cUP SINGLE AND HORIZONTAL DOUBLEdDOUBLE AND HORIZONTAL SINGLEcDOUBLE UP AND HORIZONTAL",
  "cVERTICAL SINGLE AND HORIZONTAL DOUBLEdDOUBLE AND HORIZONTAL SINGLE",
  "cDOUBLE VERTICAL AND HORIZONTALcLIGHT ARC DOWN AND RIGHTgLEFTeUP AND LEFTgRIGHT",
  "dDIAGONAL UPPER RIGHT TO LOWER LEFTfLEFT TO LOWER RIGHTeCROSSdLEFTdUPdRIGHTdDOWNcHEAVY LEFT",
  "dUPdRIGHTdDOWNcLIGHT LEFT AND HEAVY RIGHTdUP AND HEAVY DOWNcHEAVY LEFT AND LIGHT RIGHT",
  "dUP AND LIGHT DOWNaUPPER HALF BLOCKaLOWER ONE EIGHTH BLOCKcQUARTER BLOCKbTHREE EIGHTHS BLOCK",
  "bHALF BLOCKbFIVE EIGHTHS BLOCKbTHREE QUARTERS BLOCKbSEVEN EIGHTHS BLOCKaFULL BLOCK",
  "aLEFT SEVEN EIGHTHS BLOCKbTHREE QUARTERS BLOCKbFIVE EIGHTHS BLOCKbHALF BLOCK",
  "bTHREE EIGHTHS BLOCKbONE QUARTER BLOCKcEIGHTH BLOCKaRIGHT HALF BLOCKaLIGHT SHADE",
  "aMEDIUM SHADEaDARK SHADEaUPPER ONE EIGHTH BLOCKaRIGHT ONE EIGHTH BLOCKaQUADRANT LOWER LEFT",
  "cRIGHTbUPPER LEFTdAND LOWER LEFT AND LOWER RIGHTfRIGHTeUPPER RIGHT AND LOWER LEFTiRIGHT",
  "cRIGHTdAND LOWER LEFTgAND LOWER RIGHTaBLACK SQUAREaWHITE SQUAREcWITH ROUNDED CORNERS",
  "cCONTAINING BLACK SMALL SQUAREaSQUARE WITH HORIZONTAL FILLcVERTICAL FILL",
  "cORTHOGONAL CROSSHATCH FILLcUPPER LEFT TO LOWER RIGHT FILLdRIGHT TO LOWER LEFT FILL",
  "cDIAGONAL CROSSHATCH FILLaBLACK SMALL SQUAREaWHITE SMALL SQUAREaBLACK RECTANGLE",
  "aWHITE RECTANGLEaBLACK VERTICAL RECTANGLEaWHITE VERTICAL RECTANGLEaBLACK PARALLELOGRAM",
  "aWHITE PARALLELOGRAMaBLACK UP-POINTING TRIANGLEaWHITE UP-POINTING TRIANGLE",
  "aBLACK UP-POINTING SMALL TRIANGLEaWHITE UP-POINTING SMALL TRIANGLE",
  "aBLACK RIGHT-POINTING TRIANGLEaWHITE RIGHT-POINTING TRIANGLE",
  "aBLACK RIGHT-POINTING SMALL TRIANGLEaWHITE RIGHT-POINTING SMALL TRIANGLE",
  "aBLACK RIGHT-POINTING POINTERaWHITE RIGHT-POINTING POINTERaBLACK DOWN-POINTING TRIANGLE",
  "aWHITE DOWN-POINTING TRIANGLEaBLACK DOWN-POINTING SMALL TRIANGLE",
  "aWHITE DOWN-POINTING SMALL TRIANGLEaBLACK LEFT-POINTING TRIANGLE",
  "aWHITE LEFT-POINTING TRIANGLEaBLACK LEFT-POINTING SMALL TRIANGLE",
  "aWHITE LEFT-POINTING SMALL TRIANGLEaBLACK LEFT-POINTING POINTERaWHITE LEFT-POINTING POINTER",
  "aBLACK DIAMONDaWHITE DIAMONDcCONTAINING BLACK SMALL DIAMONDaFISHEYEaLOZENGEaWHITE CIRCLE",
  "aDOTTED CIRCLEaCIRCLE WITH VERTICAL FILLaBULLSEYEaBLACK CIRCLEaCIRCLE WITH LEFT HALF BLACK",
  "cRIGHT HALF BLACKcLOWER HALF BLACKcUPPER HALF BLACKdRIGHT QUADRANT BLACK",
  "cALL BUT UPPER LEFT QUADRANT BLACKaLEFT HALF BLACK CIRCLEaRIGHT HALF BLACK CIRCLE",
  "aINVERSE BULLETbWHITE CIRCLEaUPPER HALF INVERSE WHITE CIRCLEaLOWER HALF INVERSE WHITE CIRCLE",
  "aUPPER LEFT QUADRANT CIRCULAR ARCbRIGHT QUADRANT CIRCULAR ARC",
  "aLOWER RIGHT QUADRANT CIRCULAR ARCbLEFT QUADRANT CIRCULAR ARCaUPPER HALF CIRCLE",
  "aLOWER HALF CIRCLEaBLACK LOWER RIGHT TRIANGLEcLEFT TRIANGLEbUPPER LEFT TRIANGLE",
  "cRIGHT TRIANGLEaWHITE BULLETaSQUARE WITH LEFT HALF BLACKcRIGHT HALF BLACK",
  "cUPPER LEFT DIAGONAL HALF BLACKcLOWER RIGHT DIAGONAL HALF BLACK",
  "aWHITE SQUARE WITH VERTICAL BISECTING LINEbUP-POINTING TRIANGLE WITH DOT",
  "aUP-POINTING TRIANGLE WITH LEFT HALF BLACKdRIGHT HALF BLACKaLARGE CIRCLE",
  "aWHITE SQUARE WITH UPPER LEFT QUADRANTdLOWER LEFT QUADRANTeRIGHT QUADRANT",
  "dUPPER RIGHT QUADRANTbCIRCLE WITH UPPER LEFT QUADRANTdLOWER LEFT QUADRANTeRIGHT QUADRANT",
  "dUPPER RIGHT QUADRANTaUPPER LEFT TRIANGLEbRIGHT TRIANGLEaLOWER LEFT TRIANGLE",
  "aWHITE MEDIUM SQUAREaBLACK MEDIUM SQUAREaWHITE MEDIUM SMALL SQUAREaBLACK MEDIUM SMALL SQUARE",
  "aLOWER RIGHT TRIANGLEaBLACK SUN WITH RAYSaCLOUDaUMBRELLAaSNOWMANaCOMETaBLACK STARaWHITE STAR",
  "aLIGHTNINGaTHUNDERSTORMaSUNaASCENDING NODEaDESCENDING NODEaCONJUNCTIONaOPPOSITION",
  "aBLACK TELEPHONEaWHITE TELEPHONEaBALLOT BOXcWITH CHECKdXaSALTIREaUMBRELLA WITH RAIN DROPS",
  "aHOT BEVERAGEaWHITE SHOGI PIECEaBLACK SHOGI PIECEaSHAMROCK",
  "aREVERSED ROTATED FLORAL HEART BULLETaBLACK LEFT POINTING INDEXbRIGHT POINTING INDEX",
  "aWHITE LEFT POINTING INDEXbUP POINTING INDEXbRIGHT POINTING INDEXbDOWN POINTING INDEX",
  "aSKULL AND CROSSBONESaCAUTION SIGNaRADIOACTIVE SIGNaBIOHAZARD SIGNaCADUCEUSaANKH",
  "aORTHODOX CROSSaCHI RHOaCROSS OF LORRAINEcJERUSALEMaSTAR AND CRESCENTaFARSI SYMBOL",
  "aADI SHAKTIaHAMMER AND SICKLEaPEACE SYMBOLaYIN YANGaTRIGRAM FOR HEAVENcLAKEcFIREcTHUNDER",
  "cWINDcWATERcMOUNTAINcEARTHaWHEEL OF DHARMAaWHITE FROWNING FACEbSMILING FACE",
  "aBLACK SMILING FACEaWHITE SUN WITH RAYSaFIRST QUARTER MOONaLAST QUARTER MOONaMERCURY",
  "aFEMALE SIGNaEARTHaMALE SIGNaJUPITERaSATURNaURANUSaNEPTUNEaPLUTOaARIESaTAURUSaGEMINIaCANCER",
  "aLEOaVIRGOaLIBRAaSCORPIUSaSAGITTARIUSaCAPRICORNaAQUARIUSaPISCESaWHITE CHESS KINGcQUEENcROOK",
  "cBISHOPcKNIGHTcPAWNaBLACK CHESS KINGcQUEENcROOKcBISHOPcKNIGHTcPAWNbSPADE SUIT",
  "aWHITE HEART SUITbDIAMOND SUITaBLACK CLUB SUITaWHITE SPADE SUITaBLACK HEART SUIT",
  "bDIAMOND SUITaWHITE CLUB SUITaHOT SPRINGSaQUARTER NOTEaEIGHTH NOTEaBEAMED EIGHTH NOTES",
  "bSIXTEENTH NOTESaMUSIC FLAT SIGNbNATURAL SIGNbSHARP SIGNaWEST SYRIAC CROSSaEAST SYRIAC CROSS",
  "aUNIVERSAL RECYCLING SYMBOLaRECYCLING SYMBOL FOR TYPE-1 PLASTICSdTYPE-2 PLASTICS",
  "dTYPE-3 PLASTICSdTYPE-4 PLASTICSdTYPE-5 PLASTICSdTYPE-6 PLASTICSdTYPE-7 PLASTICS",
  "dGENERIC MATERIALSaBLACK UNIVERSAL RECYCLING SYMBOLaRECYCLED PAPER SYMBOL",
  "aPARTIALLY-RECYCLED PAPER SYMBOLaPERMANENT PAPER SIGNaWHEELCHAIR SYMBOLaDIE FACE-1bFACE-2",
  "bFACE-3bFACE-4bFACE-5bFACE-6aWHITE CIRCLE WITH DOT RIGHTdTWO DOTS",
  "aBLACK CIRCLE WITH WHITE DOT RIGHTdTWO WHITE DOTSaMONOGRAM FOR YANGcYIN",
  "aDIGRAM FOR GREATER YANGcLESSER YINdYANGcGREATER YINaWHITE FLAGaBLACK FLAGaHAMMER AND PICK",
  "aANCHORaCROSSED SWORDSaSTAFF OF AESCULAPIUSaSCALESaALEMBICaFLOWERaGEARaSTAFF OF HERMES",
  "aATOM SYMBOLaFLEUR-DE-LISaOUTLINED WHITE STARaTHREE LINES CONVERGING RIGHTdLEFTaWARNING SIGN",
  "aHIGH VOLTAGE SIGNaDOUBLED FEMALE SIGNbMALE SIGNaINTERLOCKED FEMALE AND MALE SIGN",
  "aMALE AND FEMALE SIGNbWITH STROKE SIGNdAND MALE AND FEMALE SIGN",
  "aVERTICAL MALE WITH STROKE SIGNaHORIZONTAL MALE WITH STROKE SIGNaMEDIUM WHITE CIRCLE",
  "bBLACK CIRCLEbSMALL WHITE CIRCLEaMARRIAGE SYMBOLaDIVORCE SYMBOLaUNMARRIED PARTNERSHIP SYMBOL",
  "aCOFFINaFUNERAL URNaNEUTERaCERESaPALLASaJUNOaVESTAaCHIRONaBLACK MOON LILITHaSEXTILE",
  "aSEMISEXTILEaQUINCUNXaSESQUIQUADRATEaSOCCER BALLaBASEBALLaSQUARED KEYaWHITE DRAUGHTS MAN",
  "cKINGaBLACK DRAUGHTS MANcKINGaSNOWMAN WITHOUT SNOWaSUN BEHIND CLOUDaRAINaBLACK SNOWMAN",
  "aTHUNDER CLOUD AND RAINaTURNED WHITE SHOGI PIECEbBLACK SHOGI PIECEaWHITE DIAMOND IN SQUARE",
  "aCROSSING LANESaDISABLED CARaOPHIUCHUSaPICKaCAR SLIDINGaHELMET WITH WHITE CROSS",
  "aCIRCLED CROSSING LANESaCHAINSaNO ENTRYaALTERNATE ONE-WAY LEFT WAY TRAFFIC",
  "aBLACK TWO-WAY LEFT WAY TRAFFICaWHITE TWO-WAY LEFT WAY TRAFFICaBLACK LEFT LANE MERGE",
  "aWHITE LEFT LANE MERGEaDRIVE SLOW SIGNaHEAVY WHITE DOWN-POINTING TRIANGLEaLEFT CLOSED ENTRY",
  "aSQUARED SALTIREaFALLING DIAGONAL IN WHITE CIRCLE IN BLACK SQUAREaBLACK TRUCK",
  "aRESTRICTED LEFT ENTRY-1cENTRY-2aASTRONOMICAL SYMBOL FOR URANUS",
  "aHEAVY CIRCLE WITH STROKE AND TWO DOTS ABOVEaPENTAGRAMaRIGHT-HANDED INTERLACED PENTAGRAM",
  "aLEFT-HANDED INTERLACED PENTAGRAMaINVERTED PENTAGRAMaBLACK CROSS ON SHIELDaSHINTO SHRINE",
  "aCHURCHaCASTLEaHISTORIC SITEaGEAR WITHOUT HUBbWITH HANDLESaMAP SYMBOL FOR LIGHTHOUSE",
  "aMOUNTAINaUMBRELLA ON GROUNDaFOUNTAINaFLAG IN HOLEaFERRYaSAILBOATaSQUARE FOUR CORNERSaSKIER",
  "aICE SKATEaPERSON WITH BALLaTENTaJAPANESE BANK SYMBOLaHEADSTONE GRAVEYARD SYMBOLaFUEL PUMP",
  "aCUP ON BLACK SQUAREaWHITE FLAG WITH HORIZONTAL MIDDLE BLACK STRIPEaBLACK SAFETY SCISSORS",
  "aUPPER BLADE SCISSORSaBLACK SCISSORSaLOWER BLADE SCISSORSaWHITE SCISSORSbHEAVY CHECK MARK",
  "aTELEPHONE LOCATION SIGNaTAPE DRIVEaAIRPLANEaENVELOPEaRAISED FISTbHANDaVICTORY HAND",
  "aWRITING HANDaLOWER RIGHT PENCILaPENCILaUPPER RIGHT PENCILaWHITE NIBaBLACK NIBaCHECK MARK",
  "aHEAVY CHECK MARKaMULTIPLICATION XaHEAVY MULTIPLICATION XaBALLOT XaHEAVY BALLOT X",
  "aOUTLINED GREEK CROSSaHEAVY GREEK CROSSaOPEN CENTRE CROSSaHEAVY OPEN CENTRE CROSS",
  "aLATIN CROSSaSHADOWED WHITE LATIN CROSSaOUTLINED LATIN CROSSaMALTESE CROSSaSTAR OF DAVID",
  "aFOUR TEARDROP-SPOKED ASTERISKbBALLOON-SPOKED ASTERISKaHEAVY FOUR BALLOON-SPOKED ASTERISK",
  "aFOUR CLUB-SPOKED ASTERISKaBLACK FOUR POINTED STARaWHITE FOUR POINTED STARaSPARKLES",
  "aSTRESS OUTLINED WHITE STARaCIRCLED WHITE STARaOPEN CENTRE BLACK STAR",
  "aBLACK CENTRE WHITE STARaOUTLINED BLACK STARaHEAVY OUTLINED BLACK STARaPINWHEEL STAR",
  "aSHADOWED WHITE STARaHEAVY ASTERISKaOPEN CENTRE ASTERISKaEIGHT SPOKED ASTERISK",
  "bPOINTED BLACK STARcPINWHEEL STARaSIX POINTED BLACK STAR",
  "aEIGHT POINTED RECTILINEAR BLACK STARaHEAVY EIGHT POINTED RECTILINEAR BLACK STAR",
  "aTWELVE POINTED BLACK STARaSIXTEEN POINTED ASTERISKaTEARDROP-SPOKED ASTERISK",
  "aOPEN CENTRE TEARDROP-SPOKED ASTERISKaHEAVY TEARDROP-SPOKED ASTERISK",
  "aSIX PETALLED BLACK AND WHITE FLORETTEaBLACK FLORETTEaWHITE FLORETTE",
  "aEIGHT PETALLED OUTLINED BLACK FLORETTEaCIRCLED OPEN CENTRE EIGHT POINTED STAR",
  "aHEAVY TEARDROP-SPOKED PINWHEEL ASTERISKaSNOWFLAKEaTIGHT TRIFOLIATE SNOWFLAKE",
  "aHEAVY CHEVRON SNOWFLAKEaSPARKLEaHEAVY SPARKLEaBALLOON-SPOKED ASTERISK",
  "aEIGHT TEARDROP-SPOKED PROPELLER ASTERISKaHEAVY EIGHT TEARDROP-SPOKED PROPELLER ASTERISK",
  "aCROSS MARKaSHADOWED WHITE CIRCLEaNEGATIVE SQUARED CROSS MARK",
  "aLOWER RIGHT DROP-SHADOWED WHITE SQUAREaUPPER RIGHT DROP-SHADOWED WHITE SQUARE",
  "aLOWER RIGHT SHADOWED WHITE SQUAREaUPPER RIGHT SHADOWED WHITE SQUARE",
  "aBLACK QUESTION MARK ORNAMENTaWHITE QUESTION MARK ORNAMENTbEXCLAMATION MARK ORNAMENT",
  "aBLACK DIAMOND MINUS WHITE XaHEAVY EXCLAMATION MARK SYMBOLaLIGHT VERTICAL BAR",
  "aMEDIUM VERTICAL BARaHEAVY VERTICAL BARbSINGLE TURNED COMMA QUOTATION MARK ORNAMENT",
  "cCOMMA QUOTATION MARK ORNAMENTbDOUBLE TURNED COMMA QUOTATION MARK ORNAMENT",
  "cCOMMA QUOTATION MARK ORNAMENTbLOW SINGLE COMMA QUOTATION MARK ORNAMENT",
  "cDOUBLE COMMA QUOTATION MARK ORNAMENTaCURVED STEM PARAGRAPH SIGN ORNAMENT",
  "aHEAVY EXCLAMATION MARK ORNAMENTbHEART EXCLAMATION MARK ORNAMENTbBLACK HEART",
  "aROTATED HEAVY BLACK HEART BULLETaFLORAL HEARTaROTATED FLORAL HEART BULLET",
  "aMEDIUM LEFT PARENTHESIS ORNAMENTbRIGHT PARENTHESIS ORNAMENT",
  "bFLATTENED LEFT PARENTHESIS ORNAMENTcRIGHT PARENTHESIS ORNAMENT",
  "bLEFT-POINTING ANGLE BRACKET ORNAMENTbRIGHT-POINTING ANGLE BRACKET ORNAMENT",
  "aHEAVY LEFT-POINTING ANGLE QUOTATION MARK ORNAMENT",
  "bRIGHT-POINTING ANGLE QUOTATION MARK ORNAMENTbLEFT-POINTING ANGLE BRACKET ORNAMENT",
  "bRIGHT-POINTING ANGLE BRACKET ORNAMENTaLIGHT LEFT TORTOISE SHELL BRACKET ORNAMENT",
  "bRIGHT TORTOISE SHELL BRACKET ORNAMENTaMEDIUM LEFT CURLY BRACKET ORNAMENT",
  "bRIGHT CURLY BRACKET ORNAMENTaDINGBAT NEGATIVE CIRCLED DIGIT ONEeTWOeTHREEeFOUReFIVEeSIX",
  "eSEVENeEIGHTeNINEdNUMBER TENbCIRCLED SANS-SERIF DIGIT ONEeTWOeTHREEeFOUReFIVEeSIXeSEVEN",
  "eEIGHTeNINEdNUMBER TENbNEGATIVE CIRCLED SANS-SERIF DIGIT ONEfTWOfTHREEfFOURfFIVEfSIXfSEVEN",
  "fEIGHTfNINEeNUMBER TENaHEAVY WIDE-HEADED RIGHTWARDS ARROWbPLUS SIGNbMINUS SIGNbDIVISION SIGN",
  "bSOUTH EAST ARROWbRIGHTWARDS ARROWbNORTH EAST ARROWaDRAFTING POINT RIGHTWARDS ARROW",
  "aHEAVY ROUND-TIPPED RIGHTWARDS ARROWaTRIANGLE-HEADED RIGHTWARDS ARROW",
  "aHEAVY TRIANGLE-HEADED RIGHTWARDS ARROWaDASHED TRIANGLE-HEADED RIGHTWARDS ARROW",
  "aHEAVY DASHED TRIANGLE-HEADED RIGHTWARDS ARROWaBLACK RIGHTWARDS ARROW",
  "aTHREE-D TOP-LIGHTED RIGHTWARDS ARROWHEADbBOTTOM-LIGHTED RIGHTWARDS ARROWHEAD",
  "aBLACK RIGHTWARDS ARROWHEADaHEAVY BLACK CURVED DOWNWARDS AND RIGHTWARDS ARROW",
  "dUPWARDS AND RIGHTWARDS ARROWaSQUAT BLACK RIGHTWARDS ARROW",
  "aHEAVY CONCAVE-POINTED BLACK RIGHTWARDS ARROWaRIGHT-SHADED WHITE RIGHTWARDS ARROW",
  "aLEFT-SHADED WHITE RIGHTWARDS ARROWaBACK-TILTED SHADOWED WHITE RIGHTWARDS ARROW",
  "aFRONT-TILTED SHADOWED WHITE RIGHTWARDS ARROW",
  "aHEAVY LOWER RIGHT-SHADOWED WHITE RIGHTWARDS ARROW",
  "bUPPER RIGHT-SHADOWED WHITE RIGHTWARDS ARROW",
  "aNOTCHED LOWER RIGHT-SHADOWED WHITE RIGHTWARDS ARROWaCURLY LOOP",
  "aNOTCHED UPPER RIGHT-SHADOWED WHITE RIGHTWARDS ARROWaCIRCLED HEAVY WHITE RIGHTWARDS ARROW",
  "aWHITE-FEATHERED RIGHTWARDS ARROWaBLACK-FEATHERED SOUTH EAST ARROWbRIGHTWARDS ARROW",
  "bNORTH EAST ARROWaHEAVY BLACK-FEATHERED SOUTH EAST ARROWcRIGHTWARDS ARROWcNORTH EAST ARROW",
  "aTEARDROP-BARBED RIGHTWARDS ARROWaHEAVY TEARDROP-SHANKED RIGHTWARDS ARROW",
  "aWEDGE-TAILED RIGHTWARDS ARROWaHEAVY WEDGE-TAILED RIGHTWARDS ARROW",
  "aOPEN-OUTLINED RIGHTWARDS ARROWaDOUBLE CURLY LOOPaTHREE DIMENSIONAL ANGLE",
  "aWHITE TRIANGLE CONTAINING SMALL WHITE TRIANGLEaPERPENDICULARaOPEN SUBSETbSUPERSET",
  "aLEFT S-SHAPED BAG DELIMITERaRIGHT S-SHAPED BAG DELIMITERaOR WITH DOT INSIDE",
  "aREVERSE SOLIDUS PRECEDING SUBSETaSUPERSET PRECEDING SOLIDUS",
  "aVERTICAL BAR WITH HORIZONTAL STROKEaMATHEMATICAL RISING DIAGONALaLONG DIVISION",
  "aMATHEMATICAL FALLING DIAGONALaSQUARED LOGICAL ANDcORaWHITE DIAMOND WITH CENTRED DOT",
  "aAND WITH DOTaELEMENT OF OPENING UPWARDSaLOWER RIGHT CORNER WITH DOT",
  "aUPPER LEFT CORNER WITH DOTaLEFT OUTER JOINaRIGHT OUTER JOINaFULL OUTER JOINaLARGE UP TACK",
  "bDOWN TACKaLEFT AND RIGHT DOUBLE TURNSTILEdTACKbMULTIMAPaLONG RIGHT TACKbLEFT TACK",
  "aUP TACK WITH CIRCLE ABOVEaLOZENGE DIVIDED BY HORIZONTAL RULEaWHITE CONCAVE-SIDED DIAMOND",
  "dWITH LEFTWARDS TICKeRIGHTWARDS TICKbSQUARE WITH LEFTWARDS TICKdRIGHTWARDS TICK",
  "aMATHEMATICAL LEFT WHITE SQUARE BRACKETbRIGHT WHITE SQUARE BRACKETbLEFT ANGLE BRACKET",
  "bRIGHT ANGLE BRACKETbLEFT DOUBLE ANGLE BRACKETbRIGHT DOUBLE ANGLE BRACKET",
  "bLEFT WHITE TORTOISE SHELL BRACKETbRIGHT WHITE TORTOISE SHELL BRACKET",
  "bLEFT FLATTENED PARENTHESISbRIGHT FLATTENED PARENTHESISaUPWARDS QUADRUPLE ARROW",
  "aDOWNWARDS QUADRUPLE ARROWaANTICLOCKWISE GAPPED CIRCLE ARROWaCLOCKWISE GAPPED CIRCLE ARROW",
  "aRIGHT ARROW WITH CIRCLED PLUSaLONG LEFTWARDS ARROWbRIGHTWARDS ARROWbLEFT RIGHT ARROW",
  "bLEFTWARDS DOUBLE ARROWbRIGHTWARDS DOUBLE ARROWbLEFT RIGHT DOUBLE ARROW",
  "bLEFTWARDS ARROW FROM BARbRIGHTWARDS ARROW FROM BARbLEFTWARDS DOUBLE ARROW FROM BAR",
  "bRIGHTWARDS DOUBLE ARROW FROM BARcSQUIGGLE ARROWaBRAILLE PATTERN BLANKcDOTS-1cDOTS-2cDOTS-12",
  "cDOTS-3cDOTS-13cDOTS-23cDOTS-123cDOTS-4cDOTS-14cDOTS-24cDOTS-124cDOTS-34cDOTS-134cDOTS-234",
  "cDOTS-1234cDOTS-5cDOTS-15cDOTS-25cDOTS-125cDOTS-35cDOTS-135cDOTS-235cDOTS-1235cDOTS-45",
  "cDOTS-145cDOTS-245cDOTS-1245cDOTS-345cDOTS-1345cDOTS-2345cDOTS-12345cDOTS-6cDOTS-16cDOTS-26",
  "cDOTS-126"]

/-- The names of characters from U+2824 to U+A9BD. -/
def namesFrom2824 : List String := [
  ":2824aBRAILLE PATTERN DOTS-36cDOTS-136cDOTS-236cDOTS-1236cDOTS-46cDOTS-146cDOTS-246",
  "cDOTS-1246cDOTS-346cDOTS-1346cDOTS-2346cDOTS-12346cDOTS-56cDOTS-156cDOTS-256cDOTS-1256",
  "cDOTS-356cDOTS-1356cDOTS-2356cDOTS-12356cDOTS-456cDOTS-1456cDOTS-2456cDOTS-12456cDOTS-3456",
  "cDOTS-13456cDOTS-23456cDOTS-123456cDOTS-7cDOTS-17cDOTS-27cDOTS-127cDOTS-37cDOTS-137cDOTS-237",
  "cDOTS-1237cDOTS-47cDOTS-147cDOTS-247cDOTS-1247cDOTS-347cDOTS-1347cDOTS-2347cDOTS-12347",
  "cDOTS-57cDOTS-157cDOTS-257cDOTS-1257cDOTS-357cDOTS-1357cDOTS-2357cDOTS-12357cDOTS-457",
  "cDOTS-1457cDOTS-2457cDOTS-12457cDOTS-3457cDOTS-13457cDOTS-23457cDOTS-123457cDOTS-67cDOTS-167",
  "cDOTS-267cDOTS-1267cDOTS-367cDOTS-1367cDOTS-2367cDOTS-12367cDOTS-467cDOTS-1467cDOTS-2467",
  "cDOTS-12467cDOTS-3467cDOTS-13467cDOTS-23467cDOTS-123467cDOTS-567cDOTS-1567cDOTS-2567",
  "cDOTS-12567cDOTS-3567cDOTS-13567cDOTS-23567cDOTS-123567cDOTS-4567cDOTS-14567cDOTS-24567",
  "cDOTS-124567cDOTS-34567cDOTS-134567cDOTS-234567cDOTS-1234567cDOTS-8cDOTS-18cDOTS-28cDOTS-128",
  "cDOTS-38cDOTS-138cDOTS-238cDOTS-1238cDOTS-48cDOTS-148cDOTS-248cDOTS-1248cDOTS-348cDOTS-1348",
  "cDOTS-2348cDOTS-12348cDOTS-58cDOTS-158cDOTS-258cDOTS-1258cDOTS-358cDOTS-1358cDOTS-2358",
  "cDOTS-12358cDOTS-458cDOTS-1458cDOTS-2458cDOTS-12458cDOTS-3458cDOTS-13458cDOTS-23458",
  "cDOTS-123458cDOTS-68cDOTS-168cDOTS-268cDOTS-1268cDOTS-368cDOTS-1368cDOTS-2368cDOTS-12368",
  "cDOTS-468cDOTS-1468cDOTS-2468cDOTS-12468cDOTS-3468cDOTS-13468cDOTS-23468cDOTS-123468",
  "cDOTS-568cDOTS-1568cDOTS-2568cDOTS-12568cDOTS-3568cDOTS-13568cDOTS-23568cDOTS-123568",
  "cDOTS-4568cDOTS-14568cDOTS-24568cDOTS-124568cDOTS-34568cDOTS-134568cDOTS-234568cDOTS-1234568",
  "cDOTS-78cDOTS-178cDOTS-278cDOTS-1278cDOTS-378cDOTS-1378cDOTS-2378cDOTS-12378cDOTS-478",
  "cDOTS-1478cDOTS-2478cDOTS-12478cDOTS-3478cDOTS-13478cDOTS-23478cDOTS-123478cDOTS-578",
  "cDOTS-1578cDOTS-2578cDOTS-12578cDOTS-3578cDOTS-13578cDOTS-23578cDOTS-123578cDOTS-4578",
  "cDOTS-14578cDOTS-24578cDOTS-124578cDOTS-34578cDOTS-134578cDOTS-234578cDOTS-1234578cDOTS-678",
  "cDOTS-1678cDOTS-2678cDOTS-12678cDOTS-3678cDOTS-13678cDOTS-23678cDOTS-123678cDOTS-4678",
  "cDOTS-14678cDOTS-24678cDOTS-124678cDOTS-34678cDOTS-134678cDOTS-234678cDOTS-1234678cDOTS-5678",
  "cDOTS-15678cDOTS-25678cDOTS-125678cDOTS-35678cDOTS-135678cDOTS-235678cDOTS-1235678",
  "cDOTS-45678cDOTS-145678cDOTS-245678cDOTS-1245678cDOTS-345678cDOTS-1345678cDOTS-2345678",
  "cDOTS-12345678aRIGHTWARDS TWO-HEADED ARROW WITH VERTICAL STROKEeDOUBLE VERTICAL STROKE",
  "aLEFTWARDS DOUBLE ARROW WITH VERTICAL STROKEaRIGHTWARDS DOUBLE ARROW WITH VERTICAL STROKE",
  "aLEFT RIGHT DOUBLE ARROW WITH VERTICAL STROKEaRIGHTWARDS TWO-HEADED ARROW FROM BAR",
  "aLEFTWARDS DOUBLE ARROW FROM BARaRIGHTWARDS DOUBLE ARROW FROM BAR",
  "aDOWNWARDS ARROW WITH HORIZONTAL STROKEaUPWARDS ARROW WITH HORIZONTAL STROKEbTRIPLE ARROW",
  "aDOWNWARDS TRIPLE ARROWaLEFTWARDS DOUBLE DASH ARROWaRIGHTWARDS DOUBLE DASH ARROW",
  "aLEFTWARDS TRIPLE DASH ARROWaRIGHTWARDS TRIPLE DASH ARROWbTWO-HEADED TRIPLE DASH ARROW",
  "bARROW WITH DOTTED STEMaUPWARDS ARROW TO BARaDOWNWARDS ARROW TO BAR",
  "aRIGHTWARDS ARROW WITH TAIL WITH VERTICAL STROKEfDOUBLE VERTICAL STROKE",
  "bTWO-HEADED ARROW WITH TAILfWITH VERTICAL STROKEgDOUBLE VERTICAL STROKEaLEFTWARDS ARROW-TAIL",
  "aRIGHTWARDS ARROW-TAILaLEFTWARDS DOUBLE ARROW-TAILaRIGHTWARDS DOUBLE ARROW-TAIL",
  "aLEFTWARDS ARROW TO BLACK DIAMONDaRIGHTWARDS ARROW TO BLACK DIAMOND",
  "aLEFTWARDS ARROW FROM BAR TO BLACK DIAMONDaRIGHTWARDS ARROW FROM BAR TO BLACK DIAMOND",
  "aNORTH WEST AND SOUTH EAST ARROWbEAST AND SOUTH WEST ARROWbWEST ARROW WITH HOOK",
  "bEAST ARROW WITH HOOKaSOUTH EAST ARROW WITH HOOKbWEST ARROW WITH HOOK",
  "aNORTH WEST ARROW AND NORTH EAST ARROWbEAST ARROW AND SOUTH EAST ARROW",
  "aSOUTH EAST ARROW AND SOUTH WEST ARROWbWEST ARROW AND NORTH WEST ARROW",
  "aRISING DIAGONAL CROSSING FALLING DIAGONALaFALLING DIAGONAL CROSSING RISING DIAGONAL",
  "aSOUTH EAST ARROW CROSSING NORTH EAST ARROWaNORTH EAST ARROW CROSSING SOUTH EAST ARROW",
  "aFALLING DIAGONAL CROSSING NORTH EAST ARROWaRISING DIAGONAL CROSSING SOUTH EAST ARROW",
  "aNORTH EAST ARROW CROSSING NORTH WEST ARROWbWEST ARROW CROSSING NORTH EAST ARROW",
  "aWAVE ARROW POINTING DIRECTLY RIGHTaARROW POINTING RIGHTWARDS THEN CURVING UPWARDSfDOWNWARDS",
  "cDOWNWARDS THEN CURVING LEFTWARDSfRIGHTWARDSaRIGHT-SIDE ARC CLOCKWISE ARROW",
  "aLEFT-SIDE ARC ANTICLOCKWISE ARROWaTOP ARC ANTICLOCKWISE ARROW",
  "aBOTTOM ARC ANTICLOCKWISE ARROWaTOP ARC CLOCKWISE ARROW WITH MINUS",
  "cANTICLOCKWISE ARROW WITH PLUSaLOWER RIGHT SEMICIRCULAR CLOCKWISE ARROW",
  "bLEFT SEMICIRCULAR ANTICLOCKWISE ARROWaANTICLOCKWISE CLOSED CIRCLE ARROW",
  "aCLOCKWISE CLOSED CIRCLE ARROWaRIGHTWARDS ARROW ABOVE SHORT LEFTWARDS ARROW",
  "aLEFTWARDS ARROW ABOVE SHORT RIGHTWARDS ARROWaSHORT RIGHTWARDS ARROW ABOVE LEFTWARDS ARROW",
  "aRIGHTWARDS ARROW WITH PLUS BELOWaLEFTWARDS ARROW WITH PLUS BELOWaRIGHTWARDS ARROW THROUGH X",
  "aLEFT RIGHT ARROW THROUGH SMALL CIRCLEaUPWARDS TWO-HEADED ARROW FROM SMALL CIRCLE",
  "aLEFT BARB UP RIGHT BARB DOWN HARPOONcDOWN RIGHT BARB UP HARPOON",
  "aUP BARB RIGHT DOWN BARB LEFT HARPOONcLEFT DOWN BARB RIGHT HARPOON",
  "aLEFT BARB UP RIGHT BARB UP HARPOONaUP BARB RIGHT DOWN BARB RIGHT HARPOON",
  "aLEFT BARB DOWN RIGHT BARB DOWN HARPOONaUP BARB LEFT DOWN BARB LEFT HARPOON",
  "aLEFTWARDS HARPOON WITH BARB UP TO BARaRIGHTWARDS HARPOON WITH BARB UP TO BAR",
  "aUPWARDS HARPOON WITH BARB RIGHT TO BARaDOWNWARDS HARPOON WITH BARB RIGHT TO BAR",
  "aLEFTWARDS HARPOON WITH BARB DOWN TO BARaRIGHTWARDS HARPOON WITH BARB DOWN TO BAR",
  "aUPWARDS HARPOON WITH BARB LEFT TO BARaDOWNWARDS HARPOON WITH BARB LEFT TO BAR",
  "aLEFTWARDS HARPOON WITH BARB UP FROM BARaRIGHTWARDS HARPOON WITH BARB UP FROM BAR",
  "aUPWARDS HARPOON WITH BARB RIGHT FROM BARaDOWNWARDS HARPOON WITH BARB RIGHT FROM BAR",
  "aLEFTWARDS HARPOON WITH BARB DOWN FROM BARaRIGHTWARDS HARPOON WITH BARB DOWN FROM BAR",
  "aUPWARDS HARPOON WITH BARB LEFT FROM BARaDOWNWARDS HARPOON WITH BARB LEFT FROM BAR",
  "aLEFTWARDS HARPOON WITH BARB UP ABOVE LEFTWARDS HARPOON WITH BARB DOWN",
  "aUPWARDS HARPOON WITH BARB LEFT BESIDE UPWARDS HARPOON WITH BARB RIGHT",
  "aRIGHTWARDS HARPOON WITH BARB UP ABOVE RIGHTWARDS HARPOON WITH BARB DOWN",
  "aDOWNWARDS HARPOON WITH BARB LEFT BESIDE DOWNWARDS HARPOON WITH BARB RIGHT",
  "aLEFTWARDS HARPOON WITH BARB UP ABOVE RIGHTWARDS HARPOON WITH BARB UP",
  "eDOWN ABOVE RIGHTWARDS HARPOON WITH BARB DOWN",
  "aRIGHTWARDS HARPOON WITH BARB UP ABOVE LEFTWARDS HARPOON WITH BARB UP",
  "eDOWN ABOVE LEFTWARDS HARPOON WITH BARB DOWNaLEFTWARDS HARPOON WITH BARB UP ABOVE LONG DASH",
  "eDOWN BELOW LONG DASHaRIGHTWARDS HARPOON WITH BARB UP ABOVE LONG DASHeDOWN BELOW LONG DASH",
  "aUPWARDS HARPOON WITH BARB LEFT BESIDE DOWNWARDS HARPOON WITH BARB RIGHT",
  "aDOWNWARDS HARPOON WITH BARB LEFT BESIDE UPWARDS HARPOON WITH BARB RIGHT",
  "aRIGHT DOUBLE ARROW WITH ROUNDED HEADaEQUALS SIGN ABOVE RIGHTWARDS ARROW",
  "aTILDE OPERATOR ABOVE RIGHTWARDS ARROWaLEFTWARDS ARROW ABOVE TILDE OPERATOR",
  "aRIGHTWARDS ARROW ABOVE TILDE OPERATORdALMOST EQUAL TOaLESS-THAN ABOVE LEFTWARDS ARROW",
  "aLEFTWARDS ARROW THROUGH LESS-THANaGREATER-THAN ABOVE RIGHTWARDS ARROW",
  "aSUBSET ABOVE RIGHTWARDS ARROWaLEFTWARDS ARROW THROUGH SUBSETaSUPERSET ABOVE LEFTWARDS ARROW",
  "aLEFT FISH TAILaRIGHT FISH TAILaUP FISH TAILaDOWN FISH TAILaTRIPLE VERTICAL BAR DELIMITER",
  "aZ NOTATION SPOTcTYPE COLONaLEFT WHITE CURLY BRACKETaRIGHT WHITE CURLY BRACKET",
  "aLEFT WHITE PARENTHESISaRIGHT WHITE PARENTHESISaZ NOTATION LEFT IMAGE BRACKET",
  "cRIGHT IMAGE BRACKETcLEFT BINDING BRACKETcRIGHT BINDING BRACKET",
  "aLEFT SQUARE BRACKET WITH UNDERBARaRIGHT SQUARE BRACKET WITH UNDERBAR",
  "aLEFT SQUARE BRACKET WITH TICK IN TOP CORNERaRIGHT SQUARE BRACKET WITH TICK IN BOTTOM CORNER",
  "aLEFT SQUARE BRACKET WITH TICK IN BOTTOM CORNERaRIGHT SQUARE BRACKET WITH TICK IN TOP CORNER",
  "aLEFT ANGLE BRACKET WITH DOTaRIGHT ANGLE BRACKET WITH DOTaLEFT ARC LESS-THAN BRACKET",
  "aRIGHT ARC GREATER-THAN BRACKETaDOUBLE LEFT ARC GREATER-THAN BRACKET",
  "bRIGHT ARC LESS-THAN BRACKETaLEFT BLACK TORTOISE SHELL BRACKET",
  "aRIGHT BLACK TORTOISE SHELL BRACKETaDOTTED FENCEaVERTICAL ZIGZAG LINE",
  "aMEASURED ANGLE OPENING LEFTaRIGHT ANGLE VARIANT WITH SQUAREaMEASURED RIGHT ANGLE WITH DOT",
  "aANGLE WITH S INSIDEaACUTE ANGLEaSPHERICAL ANGLE OPENING LEFTdUPaTURNED ANGLEaREVERSED ANGLE",
  "aANGLE WITH UNDERBARaREVERSED ANGLE WITH UNDERBARaOBLIQUE ANGLE OPENING UPdDOWN",
  "aMEASURED ANGLE WITH OPEN ARM ENDING IN ARROW POINTING UP AND RIGHTlLEFTjDOWN AND RIGHTlLEFT",
  "jRIGHT AND UPjLEFT AND UPjRIGHT AND DOWNjLEFT AND DOWNaREVERSED EMPTY SET",
  "aEMPTY SET WITH OVERBARdSMALL CIRCLE ABOVEdRIGHT ARROW ABOVEdLEFT ARROW ABOVE",
  "aCIRCLE WITH HORIZONTAL BARaCIRCLED VERTICAL BARbPARALLELbREVERSE SOLIDUSbPERPENDICULAR",
  "aCIRCLE DIVIDED BY HORIZONTAL BAR AND TOP HALF DIVIDED BY VERTICAL BARbWITH SUPERIMPOSED X",
  "aCIRCLED ANTICLOCKWISE-ROTATED DIVISION SIGNaUP ARROW THROUGH CIRCLEaCIRCLED WHITE BULLET",
  "bBULLETbLESS-THANbGREATER-THANaCIRCLE WITH SMALL CIRCLE TO THE RIGHT",
  "cTWO HORIZONTAL STROKES TO THE RIGHTaSQUARED RISING DIAGONAL SLASHbFALLING DIAGONAL SLASH",
  "bASTERISKbSMALL CIRCLEbSQUAREaTWO JOINED SQUARESaTRIANGLE WITH DOT ABOVEcUNDERBAR",
  "aS IN TRIANGLEaTRIANGLE WITH SERIFS AT BOTTOMaRIGHT TRIANGLE ABOVE LEFT TRIANGLE",
  "aLEFT TRIANGLE BESIDE VERTICAL BARaVERTICAL BAR BESIDE RIGHT TRIANGLE",
  "aBOWTIE WITH LEFT HALF BLACKcRIGHT HALF BLACKaBLACK BOWTIEaTIMES WITH LEFT HALF BLACK",
  "cRIGHT HALF BLACKaWHITE HOURGLASSaBLACK HOURGLASSaLEFT WIGGLY FENCEaRIGHT WIGGLY FENCE",
  "aLEFT DOUBLE WIGGLY FENCEaRIGHT DOUBLE WIGGLY FENCEaINCOMPLETE INFINITYaTIE OVER INFINITY",
  "aINFINITY NEGATED WITH VERTICAL BARaDOUBLE-ENDED MULTIMAPaSQUARE WITH CONTOURED OUTLINE",
  "aINCREASES ASaSHUFFLE PRODUCTaEQUALS SIGN AND SLANTED PARALLELfWITH TILDE ABOVE",
  "aIDENTICAL TO AND SLANTED PARALLELaGLEICH STARKaTHERMODYNAMIC",
  "aDOWN-POINTING TRIANGLE WITH LEFT HALF BLACKdRIGHT HALF BLACKaBLACK DIAMOND WITH DOWN ARROW",
  "bLOZENGEaWHITE CIRCLE WITH DOWN ARROWaBLACK CIRCLE WITH DOWN ARROWaERROR-BARRED WHITE SQUARE",
  "bBLACK SQUAREbWHITE DIAMONDbBLACK DIAMONDbWHITE CIRCLEbBLACK CIRCLEaRULE-DELAYED",
  "aREVERSE SOLIDUS OPERATORaSOLIDUS WITH OVERBARaREVERSE SOLIDUS WITH HORIZONTAL STROKE",
  "aBIG SOLIDUSbREVERSE SOLIDUSaDOUBLE PLUSaTRIPLE PLUSaLEFT-POINTING CURVED ANGLE BRACKET",
  "aRIGHT-POINTING CURVED ANGLE BRACKETaTINYaMINYaN-ARY CIRCLED DOT OPERATORcPLUS OPERATOR",
  "cTIMES OPERATORbUNION OPERATOR WITH DOTePLUSbSQUARE INTERSECTION OPERATORcUNION OPERATOR",
  "aTWO LOGICAL AND OPERATORcOR OPERATORaN-ARY TIMES OPERATORaMODULO TWO SUM",
  "aSUMMATION WITH INTEGRALaQUADRUPLE INTEGRAL OPERATORaFINITE PART INTEGRAL",
  "aINTEGRAL WITH DOUBLE STROKEbAVERAGE WITH SLASHaCIRCULATION FUNCTION",
  "aANTICLOCKWISE INTEGRATIONaLINE INTEGRATION WITH RECTANGULAR PATH AROUND POLE",
  "dSEMICIRCULAR PATH AROUND POLEcNOT INCLUDING THE POLEaINTEGRAL AROUND A POINT OPERATOR",
  "aQUATERNION INTEGRAL OPERATORaINTEGRAL WITH LEFTWARDS ARROW WITH HOOKcTIMES SIGN",
  "cINTERSECTIONcUNIONcOVERBARcUNDERBARaJOINaLARGE LEFT TRIANGLE OPERATOR",
  "aZ NOTATION SCHEMA COMPOSITIONdPIPINGdPROJECTIONaPLUS SIGN WITH SMALL CIRCLE ABOVE",
  "dCIRCUMFLEX ACCENT ABOVEdTILDE ABOVEdDOT BELOWdTILDE BELOWdSUBSCRIPT TWOdBLACK TRIANGLE",
  "aMINUS SIGN WITH COMMA ABOVEdDOT BELOWdFALLING DOTSdRISING DOTS",
  "aPLUS SIGN IN LEFT HALF CIRCLEdRIGHT HALF CIRCLEaVECTOR OR CROSS PRODUCT",
  "aMULTIPLICATION SIGN WITH DOT ABOVEdUNDERBARaSEMIDIRECT PRODUCT WITH BOTTOM CLOSED",
  "aSMASH PRODUCTaMULTIPLICATION SIGN IN LEFT HALF CIRCLEdRIGHT HALF CIRCLE",
  "aCIRCLED MULTIPLICATION SIGN WITH CIRCUMFLEX ACCENTaMULTIPLICATION SIGN IN DOUBLE CIRCLE",
  "aCIRCLED DIVISION SIGNaPLUS SIGN IN TRIANGLEaMINUS SIGN IN TRIANGLE",
  "aMULTIPLICATION SIGN IN TRIANGLEaINTERIOR PRODUCTaRIGHTHAND INTERIOR PRODUCT",
  "aZ NOTATION RELATIONAL COMPOSITIONaAMALGAMATION OR COPRODUCTaINTERSECTION WITH DOT",
  "aUNION WITH MINUS SIGNcOVERBARaINTERSECTION WITH OVERBARcLOGICAL ANDaUNION WITH LOGICAL OR",
  "bABOVE INTERSECTIONaINTERSECTION ABOVE UNIONaUNION ABOVE BAR ABOVE INTERSECTION",
  "aINTERSECTION ABOVE BAR ABOVE UNIONaUNION BESIDE AND JOINED WITH UNION",
  "aINTERSECTION BESIDE AND JOINED WITH INTERSECTIONaCLOSED UNION WITH SERIFS",
  "bINTERSECTION WITH SERIFSaDOUBLE SQUARE INTERSECTIONcUNION",
  "aCLOSED UNION WITH SERIFS AND SMASH PRODUCTaLOGICAL AND WITH DOT ABOVEbOR WITH DOT ABOVE",
  "aDOUBLE LOGICAL ANDcORaTWO INTERSECTING LOGICAL ANDdORaSLOPING LARGE ORcAND",
  "aLOGICAL OR OVERLAPPING LOGICAL ANDbAND WITH MIDDLE STEMbOR WITH MIDDLE STEM",
  "bAND WITH HORIZONTAL DASHbOR WITH HORIZONTAL DASHbAND WITH DOUBLE OVERBARdUNDERBAR",
  "dDOUBLE UNDERBARaSMALL VEE WITH UNDERBARaLOGICAL OR WITH DOUBLE OVERBAReUNDERBAR",
  "aZ NOTATION DOMAIN ANTIRESTRICTIONcRANGE ANTIRESTRICTIONaEQUALS SIGN WITH DOT BELOW",
  "aIDENTICAL WITH DOT ABOVEaTRIPLE HORIZONTAL BAR WITH DOUBLE VERTICAL STROKE",
  "eTRIPLE VERTICAL STROKEaTILDE OPERATOR WITH DOT ABOVEdRISING DOTSaSIMILAR MINUS SIMILAR",
  "aCONGRUENT WITH DOT ABOVEaEQUALS WITH ASTERISKaALMOST EQUAL TO WITH CIRCUMFLEX ACCENT",
  "aAPPROXIMATELY EQUAL OR EQUAL TOaEQUALS SIGN ABOVE PLUS SIGNaPLUS SIGN ABOVE EQUALS SIGN",
  "aEQUALS SIGN ABOVE TILDE OPERATORaDOUBLE COLON EQUALaTWO CONSECUTIVE EQUALS SIGNS",
  "aTHREE CONSECUTIVE EQUALS SIGNSaEQUALS SIGN WITH TWO DOTS ABOVE AND TWO DOTS BELOW",
  "aEQUIVALENT WITH FOUR DOTS ABOVEaLESS-THAN WITH CIRCLE INSIDE",
  "aGREATER-THAN WITH CIRCLE INSIDEaLESS-THAN WITH QUESTION MARK ABOVE",
  "aGREATER-THAN WITH QUESTION MARK ABOVEaLESS-THAN OR SLANTED EQUAL TO",
  "aGREATER-THAN OR SLANTED EQUAL TOaLESS-THAN OR SLANTED EQUAL TO WITH DOT INSIDE",
  "aGREATER-THAN OR SLANTED EQUAL TO WITH DOT INSIDE",
  "aLESS-THAN OR SLANTED EQUAL TO WITH DOT ABOVE",
  "aGREATER-THAN OR SLANTED EQUAL TO WITH DOT ABOVE",
  "aLESS-THAN OR SLANTED EQUAL TO WITH DOT ABOVE RIGHT",
  "aGREATER-THAN OR SLANTED EQUAL TO WITH DOT ABOVE LEFTaLESS-THAN OR APPROXIMATE",
  "aGREATER-THAN OR APPROXIMATEaLESS-THAN AND SINGLE-LINE NOT EQUAL TO",
  "aGREATER-THAN AND SINGLE-LINE NOT EQUAL TOaLESS-THAN AND NOT APPROXIMATE",
  "aGREATER-THAN AND NOT APPROXIMATEaLESS-THAN ABOVE DOUBLE-LINE EQUAL ABOVE GREATER-THAN",
  "aGREATER-THAN ABOVE DOUBLE-LINE EQUAL ABOVE LESS-THANaLESS-THAN ABOVE SIMILAR OR EQUAL",
  "aGREATER-THAN ABOVE SIMILAR OR EQUALaLESS-THAN ABOVE SIMILAR ABOVE GREATER-THAN",
  "aGREATER-THAN ABOVE SIMILAR ABOVE LESS-THAN",
  "aLESS-THAN ABOVE GREATER-THAN ABOVE DOUBLE-LINE EQUAL",
  "aGREATER-THAN ABOVE LESS-THAN ABOVE DOUBLE-LINE EQUAL",
  "aLESS-THAN ABOVE SLANTED EQUAL ABOVE GREATER-THAN ABOVE SLANTED EQUAL",
  "aGREATER-THAN ABOVE SLANTED EQUAL ABOVE LESS-THAN ABOVE SLANTED EQUAL",
  "aSLANTED EQUAL TO OR LESS-THANeGREATER-THANeLESS-THAN WITH DOT INSIDE",
  "eGREATER-THAN WITH DOT INSIDEaDOUBLE-LINE EQUAL TO OR LESS-THANeGREATER-THAN",
  "bSLANTED EQUAL TO OR LESS-THANfGREATER-THANaSIMILAR OR LESS-THANcGREATER-THAN",
  "bABOVE LESS-THAN ABOVE EQUALS SIGNcGREATER-THAN ABOVE EQUALS SIGNaDOUBLE NESTED LESS-THAN",
  "cGREATER-THANcLESS-THAN WITH UNDERBARaGREATER-THAN OVERLAPPING LESS-THANbBESIDE LESS-THAN",
  "aLESS-THAN CLOSED BY CURVEaGREATER-THAN CLOSED BY CURVE",
  "aLESS-THAN CLOSED BY CURVE ABOVE SLANTED EQUAL",
  "aGREATER-THAN CLOSED BY CURVE ABOVE SLANTED EQUALaSMALLER THANaLARGER THAN",
  "aSMALLER THAN OR EQUAL TOaLARGER THAN OR EQUAL TOaEQUALS SIGN WITH BUMPY ABOVE",
  "aPRECEDES ABOVE SINGLE-LINE EQUALS SIGNaSUCCEEDS ABOVE SINGLE-LINE EQUALS SIGN",
  "aPRECEDES ABOVE SINGLE-LINE NOT EQUAL TOaSUCCEEDS ABOVE SINGLE-LINE NOT EQUAL TO",
  "aPRECEDES ABOVE EQUALS SIGNaSUCCEEDS ABOVE EQUALS SIGNaPRECEDES ABOVE NOT EQUAL TO",
  "aSUCCEEDS ABOVE NOT EQUAL TOaPRECEDES ABOVE ALMOST EQUAL TOaSUCCEEDS ABOVE ALMOST EQUAL TO",
  "aPRECEDES ABOVE NOT ALMOST EQUAL TOaSUCCEEDS ABOVE NOT ALMOST EQUAL TOaDOUBLE PRECEDES",
  "bSUCCEEDSaSUBSET WITH DOTaSUPERSET WITH DOTaSUBSET WITH PLUS SIGN BELOW",
  "aSUPERSET WITH PLUS SIGN BELOWaSUBSET WITH MULTIPLICATION SIGN BELOW",
  "aSUPERSET WITH MULTIPLICATION SIGN BELOWaSUBSET OF OR EQUAL TO WITH DOT ABOVE",
  "aSUPERSET OF OR EQUAL TO WITH DOT ABOVEaSUBSET OF ABOVE EQUALS SIGN",
  "aSUPERSET OF ABOVE EQUALS SIGNaSUBSET OF ABOVE TILDE OPERATOR",
  "aSUPERSET OF ABOVE TILDE OPERATORaSUBSET OF ABOVE ALMOST EQUAL TO",
  "aSUPERSET OF ABOVE ALMOST EQUAL TOaSUBSET OF ABOVE NOT EQUAL TO",
  "aSUPERSET OF ABOVE NOT EQUAL TOaSQUARE LEFT OPEN BOX OPERATORbRIGHT OPEN BOX OPERATOR",
  "aCLOSED SUBSETbSUPERSETbSUBSET OR EQUAL TObSUPERSET OR EQUAL TOaSUBSET ABOVE SUPERSET",
  "aSUPERSET ABOVE SUBSETaSUBSET ABOVE SUBSETaSUPERSET ABOVE SUPERSETbBESIDE SUBSET",
  "cAND JOINED BY DASH WITH SUBSETaELEMENT OF OPENING DOWNWARDSaPITCHFORK WITH TEE TOP",
  "aTRANSVERSAL INTERSECTIONaFORKINGaNONFORKINGaSHORT LEFT TACKbDOWN TACKbUP TACK",
  "aPERPENDICULAR WITH SaVERTICAL BAR TRIPLE RIGHT TURNSTILEaDOUBLE VERTICAL BAR LEFT TURNSTILE",
  "aVERTICAL BAR DOUBLE LEFT TURNSTILEaDOUBLE VERTICAL BAR DOUBLE LEFT TURNSTILE",
  "aLONG DASH FROM LEFT MEMBER OF DOUBLE VERTICALaSHORT DOWN TACK WITH OVERBAR",
  "bUP TACK WITH UNDERBARdABOVE SHORT DOWN TACKaDOUBLE DOWN TACKbUP TACKbSTROKE NOT SIGN",
  "aREVERSED DOUBLE STROKE NOT SIGNaDOES NOT DIVIDE WITH REVERSED NEGATION SLASH",
  "aVERTICAL LINE WITH CIRCLE ABOVEeBELOWaDOWN TACK WITH CIRCLE BELOW",
  "aPARALLEL WITH HORIZONTAL STROKEcTILDE OPERATORaTRIPLE VERTICAL BAR BINARY RELATION",
  "dWITH HORIZONTAL STROKEbCOLON OPERATORbNESTED LESS-THANcGREATER-THAN",
  "aDOUBLE-LINE SLANTED LESS-THAN OR EQUAL TOcGREATER-THAN OR EQUAL TO",
  "aTRIPLE SOLIDUS BINARY RELATIONaLARGE TRIPLE VERTICAL BAR OPERATORaDOUBLE SOLIDUS OPERATOR",
  "aWHITE VERTICAL BARaN-ARY WHITE VERTICAL BARaNORTH EAST WHITE ARROWbWEST WHITE ARROW",
  "aSOUTH EAST WHITE ARROWbWEST WHITE ARROWaLEFT RIGHT WHITE ARROWaLEFTWARDS BLACK ARROW",
  "aUPWARDS BLACK ARROWaDOWNWARDS BLACK ARROWaNORTH EAST BLACK ARROWbWEST BLACK ARROW",
  "aSOUTH EAST BLACK ARROWbWEST BLACK ARROWaLEFT RIGHT BLACK ARROWaUP DOWN BLACK ARROW",
  "aRIGHTWARDS ARROW WITH TIP DOWNWARDSeUPWARDSaLEFTWARDS ARROW WITH TIP DOWNWARDSeUPWARDS",
  "aSQUARE WITH TOP HALF BLACKcBOTTOM HALF BLACKcUPPER RIGHT DIAGONAL HALF BLACK",
  "cLOWER LEFT DIAGONAL HALF BLACKaDIAMOND WITH LEFT HALF BLACKcRIGHT HALF BLACKcTOP HALF BLACK",
  "cBOTTOM HALF BLACKaDOTTED SQUAREaBLACK LARGE SQUAREaWHITE LARGE SQUARE",
  "aBLACK VERY SMALL SQUAREaWHITE VERY SMALL SQUAREaBLACK PENTAGONaWHITE PENTAGONbHEXAGON",
  "aBLACK HEXAGONaHORIZONTAL BLACK HEXAGONaBLACK LARGE CIRCLEbMEDIUM DIAMOND",
  "aWHITE MEDIUM DIAMONDaBLACK MEDIUM LOZENGEaWHITE MEDIUM LOZENGEaBLACK SMALL DIAMONDcLOZENGE",
  "aWHITE SMALL LOZENGEaBLACK HORIZONTAL ELLIPSEaWHITE HORIZONTAL ELLIPSE",
  "aBLACK VERTICAL ELLIPSEaWHITE VERTICAL ELLIPSEaLEFT ARROW WITH SMALL CIRCLE",
  "aTHREE LEFTWARDS ARROWSaLEFT ARROW WITH CIRCLED PLUSaLONG LEFTWARDS SQUIGGLE ARROW",
  "aLEFTWARDS TWO-HEADED ARROW WITH VERTICAL STROKEeDOUBLE VERTICAL STROKEdFROM BAR",
  "cTRIPLE DASH ARROWbARROW WITH DOTTED STEMdTAIL WITH VERTICAL STROKEfDOUBLE VERTICAL STROKE",
  "bTWO-HEADED ARROW WITH TAILfWITH VERTICAL STROKEgDOUBLE VERTICAL STROKEbARROW THROUGH X",
  "aWAVE ARROW POINTING DIRECTLY LEFTaEQUALS SIGN ABOVE LEFTWARDS ARROW",
  "aREVERSE TILDE OPERATOR ABOVE LEFTWARDS ARROWaLEFTWARDS ARROW ABOVE REVERSE ALMOST EQUAL TO",
  "aRIGHTWARDS ARROW THROUGH GREATER-THANdSUPERSETaLEFTWARDS QUADRUPLE ARROW",
  "aRIGHTWARDS QUADRUPLE ARROWaREVERSE TILDE OPERATOR ABOVE RIGHTWARDS ARROW",
  "aRIGHTWARDS ARROW ABOVE REVERSE ALMOST EQUAL TOaTILDE OPERATOR ABOVE LEFTWARDS ARROW",
  "aLEFTWARDS ARROW ABOVE ALMOST EQUAL TOdREVERSE TILDE OPERATOR",
  "aRIGHTWARDS ARROW ABOVE REVERSE TILDE OPERATORaDOWNWARDS TRIANGLE-HEADED ZIGZAG ARROW",
  "aSHORT SLANTED NORTH ARROWbBACKSLANTED SOUTH ARROWaWHITE MEDIUM STARaBLACK SMALL STAR",
  "aWHITE SMALL STARaBLACK RIGHT-POINTING PENTAGONaWHITE RIGHT-POINTING PENTAGON",
  "aHEAVY LARGE CIRCLEbOVAL WITH OVAL INSIDEbCIRCLE WITH CIRCLE INSIDEbCIRCLEbCIRCLED SALTIRE",
  "aSLANTED NORTH ARROW WITH HOOKED HEADaBACKSLANTED SOUTH ARROW WITH HOOKED TAIL",
  "aSLANTED NORTH ARROW WITH HORIZONTAL TAILaBACKSLANTED SOUTH ARROW WITH HORIZONTAL TAIL",
  "aBENT ARROW POINTING DOWNWARDS THEN NORTH EAST",
  "aSHORT BENT ARROW POINTING DOWNWARDS THEN NORTH EASTaLEFTWARDS TRIANGLE-HEADED ARROW",
  "aUPWARDS TRIANGLE-HEADED ARROWaRIGHTWARDS TRIANGLE-HEADED ARROW",
  "aDOWNWARDS TRIANGLE-HEADED ARROWaLEFT RIGHT TRIANGLE-HEADED ARROW",
  "aUP DOWN TRIANGLE-HEADED ARROWaNORTH WEST TRIANGLE-HEADED ARROWbEAST TRIANGLE-HEADED ARROW",
  "aSOUTH EAST TRIANGLE-HEADED ARROWbWEST TRIANGLE-HEADED ARROW",
  "aLEFTWARDS TRIANGLE-HEADED DASHED ARROWaUPWARDS TRIANGLE-HEADED DASHED ARROW",
  "aRIGHTWARDS TRIANGLE-HEADED DASHED ARROWaDOWNWARDS TRIANGLE-HEADED DASHED ARROW",
  "aCLOCKWISE TRIANGLE-HEADED OPEN CIRCLE ARROWaANTICLOCKWISE TRIANGLE-HEADED OPEN CIRCLE ARROW",
  "aLEFTWARDS TRIANGLE-HEADED ARROW TO BARaUPWARDS TRIANGLE-HEADED ARROW TO BAR",
  "aRIGHTWARDS TRIANGLE-HEADED ARROW TO BARaDOWNWARDS TRIANGLE-HEADED ARROW TO BAR",
  ":2B76aNORTH WEST TRIANGLE-HEADED ARROW TO BARbEAST TRIANGLE-HEADED ARROW TO BAR",
  "aSOUTH EAST TRIANGLE-HEADED ARROW TO BARbWEST TRIANGLE-HEADED ARROW TO BAR",
  "aLEFTWARDS TRIANGLE-HEADED ARROW WITH DOUBLE HORIZONTAL STROKE",
  "aUPWARDS TRIANGLE-HEADED ARROW WITH DOUBLE HORIZONTAL STROKE",
  "aRIGHTWARDS TRIANGLE-HEADED ARROW WITH DOUBLE HORIZONTAL STROKE",
  "aDOWNWARDS TRIANGLE-HEADED ARROW WITH DOUBLE HORIZONTAL STROKEaHORIZONTAL TAB KEY",
  "aVERTICAL TAB KEYaLEFTWARDS TRIANGLE-HEADED ARROW OVER RIGHTWARDS TRIANGLE-HEADED ARROW",
  "aUPWARDS TRIANGLE-HEADED ARROW LEFTWARDS OF DOWNWARDS TRIANGLE-HEADED ARROW",
  "aRIGHTWARDS TRIANGLE-HEADED ARROW OVER LEFTWARDS TRIANGLE-HEADED ARROW",
  "aDOWNWARDS TRIANGLE-HEADED ARROW LEFTWARDS OF UPWARDS TRIANGLE-HEADED ARROW",
  "aLEFTWARDS TRIANGLE-HEADED PAIRED ARROWSaUPWARDS TRIANGLE-HEADED PAIRED ARROWS",
  "aRIGHTWARDS TRIANGLE-HEADED PAIRED ARROWSaDOWNWARDS TRIANGLE-HEADED PAIRED ARROWS",
  "aLEFTWARDS BLACK CIRCLED WHITE ARROWaUPWARDS BLACK CIRCLED WHITE ARROW",
  "aRIGHTWARDS BLACK CIRCLED WHITE ARROWaDOWNWARDS BLACK CIRCLED WHITE ARROW",
  "aANTICLOCKWISE TRIANGLE-HEADED RIGHT U-SHAPED ARROWcBOTTOM U-SHAPED ARROW",
  "cLEFT U-SHAPED ARROWcTOP U-SHAPED ARROWaRETURN LEFTbRIGHTaNEWLINE LEFTbRIGHT",
  "aFOUR CORNER ARROWS CIRCLING ANTICLOCKWISEaRIGHTWARDS BLACK ARROW",
  ":2B97aSYMBOL FOR TYPE A ELECTRONICSaTHREE-D TOP-LIGHTED LEFTWARDS EQUILATERAL ARROWHEAD",
  "bRIGHT-LIGHTED UPWARDS EQUILATERAL ARROWHEADbTOP-LIGHTED RIGHTWARDS EQUILATERAL ARROWHEAD",
  "bLEFT-LIGHTED DOWNWARDS EQUILATERAL ARROWHEADaBLACK LEFTWARDS EQUILATERAL ARROWHEAD",
  "bUPWARDS EQUILATERAL ARROWHEADbRIGHTWARDS EQUILATERAL ARROWHEAD",
  "bDOWNWARDS EQUILATERAL ARROWHEADaDOWNWARDS TRIANGLE-HEADED ARROW WITH LONG TIP LEFTWARDS",
  "gRIGHTWARDSaUPWARDS TRIANGLE-HEADED ARROW WITH LONG TIP LEFTWARDSgRIGHTWARDS",
  "aLEFTWARDS TRIANGLE-HEADED ARROW WITH LONG TIP UPWARDS",
  "aRIGHTWARDS TRIANGLE-HEADED ARROW WITH LONG TIP UPWARDS",
  "aLEFTWARDS TRIANGLE-HEADED ARROW WITH LONG TIP DOWNWARDS",
  "aRIGHTWARDS TRIANGLE-HEADED ARROW WITH LONG TIP DOWNWARDS",
  "aBLACK CURVED DOWNWARDS AND LEFTWARDS ARROWeRIGHTWARDS ARROWcUPWARDS AND LEFTWARDS ARROW",
  "eRIGHTWARDS ARROWcLEFTWARDS AND UPWARDS ARROWcRIGHTWARDS AND UPWARDS ARROW",
  "cLEFTWARDS AND DOWNWARDS ARROWcRIGHTWARDS AND DOWNWARDS ARROWaRIBBON ARROW DOWN LEFTdRIGHT",
  "cUP LEFTdRIGHTcLEFT UPcRIGHT UPcLEFT DOWNcRIGHT DOWN",
  "aUPWARDS WHITE ARROW FROM BAR WITH HORIZONTAL BARaUP ARROWHEAD IN A RECTANGLE BOX",
  "aOVERLAPPING WHITE SQUAREScAND BLACK SQUARESbBLACK SQUARESaBALLOT BOX WITH LIGHT XaCIRCLED X",
  "bBOLD XaBLACK SQUARE CENTREDbDIAMOND CENTREDaTURNED BLACK PENTAGONaHORIZONTAL BLACK OCTAGON",
  "aBLACK OCTAGONbMEDIUM UP-POINTING TRIANGLE CENTREDcDOWN-POINTING TRIANGLE CENTRED",
  "cLEFT-POINTING TRIANGLE CENTREDcRIGHT-POINTING TRIANGLE CENTREDaNEPTUNE FORM TWO",
  "aTOP HALF BLACK CIRCLEaBOTTOM HALF BLACK CIRCLEaLIGHT FOUR POINTED BLACK CUSP",
  "aROTATED LIGHT FOUR POINTED BLACK CUSPaWHITE FOUR POINTED CUSP",
  "aROTATED WHITE FOUR POINTED CUSPaSQUARE POSITION INDICATORaUNCERTAINTY SIGNaGROUP MARK",
  "aPLUTO FORM TWOcTHREEcFOURcFIVEaTRANSPLUTOaPROSERPINAaASTRAEAaHYGIEAaPHOLUSaNESSUS",
  "aWHITE MOON SELENAaBLACK DIAMOND ON CROSSaTRUE LIGHT MOON ARTAaCUPIDOaHADESaZEUSaKRONOS",
  "aAPOLLONaADMETOSaVULCANUSaPOSEIDONaLEFT HALF BLACK STARaRIGHT HALF BLACK STAR",
  "aSTAR WITH LEFT HALF BLACKcRIGHT HALF BLACK",
  "aLEFTWARDS TWO-HEADED ARROW WITH TRIANGLE ARROWHEADS",
  "aUPWARDS TWO-HEADED ARROW WITH TRIANGLE ARROWHEADS",
  "aRIGHTWARDS TWO-HEADED ARROW WITH TRIANGLE ARROWHEADS",
  "aDOWNWARDS TWO-HEADED ARROW WITH TRIANGLE ARROWHEADSaERIS FORM ONEcTWOaSEDNA",
  "aRUSSIAN ASTROLOGICAL SYMBOL VIGINTILEdNOVILEdQUINTILEdBINOVILEdSENTAGONdTREDECILE",
  "aEQUALS SIGN WITH INFINITY BELOWaUNITED SYMBOLaSEPARATED SYMBOLaDOUBLED SYMBOLaPASSED SYMBOL",
  "aREVERSED RIGHT ANGLEaHELLSCHREIBER PAUSE SYMBOLaGLAGOLITIC CAPITAL LETTER AZUdBUKYdVEDE",
  "dGLAGOLIdDOBROdYESTUdZHIVETEdDZELOdZEMLJAdIZHEdINITIAL IZHEdIdDJERVIdKAKOdLJUDIJEdMYSLITE",
  "dNASHIdONUdPOKOJIdRITSIdSLOVOdTVRIDOdUKUdFRITUdHERUdOTUdPEdSHTAdTSIdCHRIVIdSHAdYERUdYERI",
  "dYATIdSPIDERY HAdYUdSMALL YUSfWITH TAILdYOdIOTATED SMALL YUSdBIG YUSdIOTATED BIG YUSdFITA",
  "dIZHITSAdSHTAPICdTROKUTASTI AdLATINATE MYSLITEdCAUDATE CHRIVIbSMALL LETTER AZUdBUKYdVEDE",
  "dGLAGOLIdDOBROdYESTUdZHIVETEdDZELOdZEMLJAdIZHEdINITIAL IZHEdIdDJERVIdKAKOdLJUDIJEdMYSLITE",
  "dNASHIdONUdPOKOJIdRITSIdSLOVOdTVRIDOdUKUdFRITUdHERUdOTUdPEdSHTAdTSIdCHRIVIdSHAdYERUdYERI",
  "dYATIdSPIDERY HAdYUdSMALL YUSfWITH TAILdYOdIOTATED SMALL YUSdBIG YUSdIOTATED BIG YUSdFITA",
  "dIZHITSAdSHTAPICdTROKUTASTI AdLATINATE MYSLITEdCAUDATE CHRIVI",
  "aLATIN CAPITAL LETTER L WITH DOUBLE BARbSMALL LETTER L WITH DOUBLE BAR",
  "bCAPITAL LETTER L WITH MIDDLE TILDEdP WITH STROKEdR WITH TAILbSMALL LETTER A WITH STROKE",
  "dT WITH DIAGONAL STROKEbCAPITAL LETTER H WITH DESCENDERbSMALL LETTER H WITH DESCENDER",
  "bCAPITAL LETTER K WITH DESCENDERbSMALL LETTER K WITH DESCENDER",
  "bCAPITAL LETTER Z WITH DESCENDERbSMALL LETTER Z WITH DESCENDERbCAPITAL LETTER ALPHA",
  "dM WITH HOOKdTURNED AeALPHAbSMALL LETTER V WITH RIGHT HOOKbCAPITAL LETTER W WITH HOOK",
  "bSMALL LETTER W WITH HOOKdV WITH CURLbCAPITAL LETTER HALF HbSMALL LETTER HALF HdTAILLESS PHI",
  "dE WITH NOTCHdTURNED R WITH TAILdO WITH LOW RING INSIDEbLETTER SMALL CAPITAL TURNED E",
  "bSUBSCRIPT SMALL LETTER JaMODIFIER LETTER CAPITAL VaLATIN CAPITAL LETTER S WITH SWASH TAIL",
  "dZ WITH SWASH TAILaCOPTIC CAPITAL LETTER ALFAbSMALL LETTER ALFAbCAPITAL LETTER VIDA",
  "bSMALL LETTER VIDAbCAPITAL LETTER GAMMAbSMALL LETTER GAMMAbCAPITAL LETTER DALDA",
  "bSMALL LETTER DALDAbCAPITAL LETTER EIEbSMALL LETTER EIEbCAPITAL LETTER SOUbSMALL LETTER SOU",
  "bCAPITAL LETTER ZATAbSMALL LETTER ZATAbCAPITAL LETTER HATEbSMALL LETTER HATE",
  "bCAPITAL LETTER THETHEbSMALL LETTER THETHEbCAPITAL LETTER IAUDAbSMALL LETTER IAUDA",
  "bCAPITAL LETTER KAPAbSMALL LETTER KAPAbCAPITAL LETTER LAULAbSMALL LETTER LAULA",
  "bCAPITAL LETTER MIbSMALL LETTER MIbCAPITAL LETTER NIbSMALL LETTER NIbCAPITAL LETTER KSI",
  "bSMALL LETTER KSIbCAPITAL LETTER ObSMALL LETTER ObCAPITAL LETTER PIbSMALL LETTER PI",
  "bCAPITAL LETTER RObSMALL LETTER RObCAPITAL LETTER SIMAbSMALL LETTER SIMAbCAPITAL LETTER TAU",
  "bSMALL LETTER TAUbCAPITAL LETTER UAbSMALL LETTER UAbCAPITAL LETTER FIbSMALL LETTER FI",
  "bCAPITAL LETTER KHIbSMALL LETTER KHIbCAPITAL LETTER PSIbSMALL LETTER PSIbCAPITAL LETTER OOU",
  "bSMALL LETTER OOUbCAPITAL LETTER DIALECT-P ALEFbSMALL LETTER DIALECT-P ALEF",
  "bCAPITAL LETTER OLD COPTIC AINbSMALL LETTER OLD COPTIC AINbCAPITAL LETTER CRYPTOGRAMMIC EIE",
  "bSMALL LETTER CRYPTOGRAMMIC EIEbCAPITAL LETTER DIALECT-P KAPAbSMALL LETTER DIALECT-P KAPA",
  "bCAPITAL LETTER DIALECT-P NIbSMALL LETTER DIALECT-P NIbCAPITAL LETTER CRYPTOGRAMMIC NI",
  "bSMALL LETTER CRYPTOGRAMMIC NIbCAPITAL LETTER OLD COPTIC OOUbSMALL LETTER OLD COPTIC OOU",
  "bCAPITAL LETTER SAMPIbSMALL LETTER SAMPIbCAPITAL LETTER CROSSED SHEI",
  "bSMALL LETTER CROSSED SHEIbCAPITAL LETTER OLD COPTIC SHEIbSMALL LETTER OLD COPTIC SHEI",
  "bCAPITAL LETTER OLD COPTIC ESHbSMALL LETTER OLD COPTIC ESHbCAPITAL LETTER AKHMIMIC KHEI",
  "bSMALL LETTER AKHMIMIC KHEIbCAPITAL LETTER DIALECT-P HORIbSMALL LETTER DIALECT-P HORI",
  "bCAPITAL LETTER OLD COPTIC HORIbSMALL LETTER OLD COPTIC HORIbCAPITAL LETTER OLD COPTIC HA",
  "bSMALL LETTER OLD COPTIC HAbCAPITAL LETTER L-SHAPED HAbSMALL LETTER L-SHAPED HA",
  "bCAPITAL LETTER OLD COPTIC HEIbSMALL LETTER OLD COPTIC HEIbCAPITAL LETTER OLD COPTIC HAT",
  "bSMALL LETTER OLD COPTIC HATbCAPITAL LETTER OLD COPTIC GANGIAbSMALL LETTER OLD COPTIC GANGIA",
  "bCAPITAL LETTER OLD COPTIC DJAbSMALL LETTER OLD COPTIC DJAbCAPITAL LETTER OLD COPTIC SHIMA",
  "bSMALL LETTER OLD COPTIC SHIMAbCAPITAL LETTER OLD NUBIAN SHIMAbSMALL LETTER OLD NUBIAN SHIMA",
  "bCAPITAL LETTER OLD NUBIAN NGIbSMALL LETTER OLD NUBIAN NGIbCAPITAL LETTER OLD NUBIAN NYI",
  "bSMALL LETTER OLD NUBIAN NYIbCAPITAL LETTER OLD NUBIAN WAUbSMALL LETTER OLD NUBIAN WAU",
  "bSYMBOL KAIcMI ROcPI ROcSTAUROScTAU ROcKHI ROcSHIMA SIMAbCAPITAL LETTER CRYPTOGRAMMIC SHEI",
  "bSMALL LETTER CRYPTOGRAMMIC SHEIbCAPITAL LETTER CRYPTOGRAMMIC GANGIA",
  "bSMALL LETTER CRYPTOGRAMMIC GANGIAbCOMBINING NI ABOVEcSPIRITUS ASPERdLENIS",
  "bCAPITAL LETTER BOHAIRIC KHEIbSMALL LETTER BOHAIRIC KHEI:2CF9bOLD NUBIAN FULL STOP",
  "dDIRECT QUESTION MARKdINDIRECT QUESTION MARKdVERSE DIVIDERbFRACTION ONE HALFbFULL STOP",
  "bMORPHOLOGICAL DIVIDERaGEORGIAN SMALL LETTER ANdBANdGANdDONdENdVINdZENdTANdINdKANdLASdMAN",
  "dNARdONdPARdZHARdRAEdSANdTARdUNdPHARdKHARdGHANdQARdSHINdCHINdCANdJILdCILdCHARdXANdJHANdHAE",
  "dHEdHIEdWEdHARdHOE:2D27dYN:2D2DdAEN:2D30aTIFINAGH LETTER YAcYABcYABHcYAGcYAGHH",
  "cBERBER ACADEMY YAJcYAJcYADcYADHcYADDcYADDHcYEYcYAFcYAKcTUAREG YAKcYAKHHcYAH",
  "cBERBER ACADEMY YAHcTUAREG YAHcYAHHcYAAcYAKHcTUAREG YAKHcYAQcTUAREG YAQcYIcYAZHcAHAGGAR YAZH",
  "cTUAREG YAZHcYALcYAMcYANcTUAREG YAGNdYANGcYAPcYUcYARcYARRcYAGHcTUAREG YAGHcAYER YAGHcYAS",
  "cYASScYASHcYATcYATHcYACHcYATTcYAVcYAWcYAYcYAZcTAWELLEMET YAZcYAZZcYEcYO",
  ":2D6FbMODIFIER LETTER LABIALIZATION MARKbSEPARATOR MARK:2D7FbCONSONANT JOINER",
  "aETHIOPIC SYLLABLE LOAcMOAcROAcSOAcSHOAcBOAcTOAcCOAcNOAcNYOAcGLOTTAL OAcZOAcDOAcDDOAcJOA",
  "cTHOAcCHOAcPHOAcPOAcGGWAcGGWIcGGWEEcGGWE:2DA0cSSAcSSUcSSIcSSAAcSSEEcSSEcSSO:2DA8cCCAcCCUcCCI",
  "cCCAAcCCEEcCCEcCCO:2DB0cZZAcZZUcZZIcZZAAcZZEEcZZEcZZO:2DB8cCCHAcCCHUcCCHIcCCHAAcCCHEEcCCHE",
  "cCCHO:2DC0cQYAcQYUcQYIcQYAAcQYEEcQYEcQYO:2DC8cKYAcKYUcKYIcKYAAcKYEEcKYEcKYO:2DD0cXYAcXYUcXYI",
  "cXYAAcXYEEcXYEcXYO:2DD8cGYAcGYUcGYIcGYAAcGYEEcGYEcGYO:2DE0aCOMBINING CYRILLIC LETTER BEdVE",
  "dGHEdDEdZHEdZEdKAdELdEMdENdOdPEdERdESdTEdHAdTSEdCHEdSHAdSHCHAdFITAdES-TEdAdIEdDJERV",
  "dMONOGRAPH UKdYATdYUdIOTIFIED AdLITTLE YUSdBIG YUSdIOTIFIED BIG YUS",
  "aRIGHT ANGLE SUBSTITUTION MARKERcDOTTED SUBSTITUTION MARKERaLEFT SUBSTITUTION BRACKET",
  "aRIGHT SUBSTITUTION BRACKETaLEFT DOTTED SUBSTITUTION BRACKET",
  "aRIGHT DOTTED SUBSTITUTION BRACKETaRAISED INTERPOLATION MARKERbDOTTED INTERPOLATION MARKER",
  "aDOTTED TRANSPOSITION MARKERaLEFT TRANSPOSITION BRACKETaRIGHT TRANSPOSITION BRACKET",
  "aRAISED SQUAREaLEFT RAISED OMISSION BRACKETaRIGHT RAISED OMISSION BRACKETaEDITORIAL CORONIS",
  "aPARAGRAPHOSaFORKED PARAGRAPHOSaREVERSED FORKED PARAGRAPHOSaHYPODIASTOLEaDOTTED OBELOS",
  "aDOWNWARDS ANCORAaUPWARDS ANCORAaDOTTED RIGHT-POINTING ANGLEaDOUBLE OBLIQUE HYPHEN",
  "aINVERTED INTERROBANGaPALM BRANCHaHYPHEN WITH DIAERESISaTILDE WITH RING ABOVE",
  "aLEFT LOW PARAPHRASE BRACKETaRIGHT LOW PARAPHRASE BRACKETaTILDE WITH DOT ABOVEdBELOW",
  "aLEFT VERTICAL BAR WITH QUILLaRIGHT VERTICAL BAR WITH QUILLaTOP LEFT HALF BRACKET",
  "bRIGHT HALF BRACKETaBOTTOM LEFT HALF BRACKETbRIGHT HALF BRACKETaLEFT SIDEWAYS U BRACKET",
  "aRIGHT SIDEWAYS U BRACKETaLEFT DOUBLE PARENTHESISaRIGHT DOUBLE PARENTHESIS",
  "aTWO DOTS OVER ONE DOT PUNCTUATIONaONE DOT OVER TWO DOTS PUNCTUATION",
  "aSQUARED FOUR DOT PUNCTUATIONaFIVE DOT MARKaREVERSED QUESTION MARKaVERTICAL TILDEaRING POINT",
  "aWORD SEPARATOR MIDDLE DOTaTURNED COMMAaRAISED DOTbCOMMAaTURNED SEMICOLON",
  "aDAGGER WITH LEFT GUARDcRIGHT GUARDaTURNED DAGGERaTOP HALF SECTION SIGNaTWO-EM DASH",
  "aTHREE-EM DASHaSTENOGRAPHIC FULL STOPaVERTICAL SIX DOTSaWIGGLY VERTICAL LINEaCAPITULUM",
  "aDOUBLE HYPHENaREVERSED COMMAaDOUBLE LOW-REVERSED-9 QUOTATION MARKaDASH WITH LEFT UPTURN",
  "aDOUBLE SUSPENSION MARKaINVERTED LOW KAVYKAdWITH KAVYKA ABOVEaLOW KAVYKAcWITH DOT",
  "aDOUBLE STACKED COMMAaDOTTED SOLIDUSaTRIPLE DAGGERaMEDIEVAL COMMAaPARAGRAPHUS MARK",
  "aPUNCTUS ELEVATUS MARKaCORNISH VERSE DIVIDERaCROSS PATTY WITH RIGHT CROSSBARdLEFT CROSSBAR",
  "aTIRONIAN SIGN CAPITAL ETaMEDIEVAL EXCLAMATION MARKbQUESTION MARK",
  "aLEFT SQUARE BRACKET WITH STROKEaRIGHT SQUARE BRACKET WITH STROKE",
  "aLEFT SQUARE BRACKET WITH DOUBLE STROKEaRIGHT SQUARE BRACKET WITH DOUBLE STROKE",
  "aTOP HALF LEFT PARENTHESIScRIGHT PARENTHESISaBOTTOM HALF LEFT PARENTHESIScRIGHT PARENTHESIS",
  "aOBLIQUE HYPHEN:2E80aCJK RADICAL REPEATcCLIFFcSECOND ONEdTWOdTHREEcPERSONcBOXcTABLE",
  "cKNIFE ONEdTWOcDIVINATIONcSEALcSMALL ONEdTWOcLAME ONEdTWOdTHREEdFOURcSNAKEcTHREADcSNOUT ONE",
  "dTWOcHEART ONEdTWOcHANDcRAP:2E9BcCHOKEcSUNcMOONcDEATHcMOTHERcCIVILIANcWATER ONEdTWOcFIRE",
  "cPAW ONEdTWOcSIMPLIFIED HALF TREE TRUNKcCOWcDOGcJADEcBOLT OF CLOTHcEYEcSPIRIT ONEdTWOcBAMBOO",
  "cSILKcC-SIMPLIFIED SILKcNET ONEdTWOdTHREEdFOURcMESHcSHEEPcRAMcEWEcOLDcBRUSH ONEdTWOcMEAT",
  "cMORTARcGRASS ONEdTWOdTHREEcTIGERcCLOTHEScWEST ONEdTWOcC-SIMPLIFIED SEEcSIMPLIFIED HORNcHORN",
  "cC-SIMPLIFIED SPEECHdSHELLcFOOTcC-SIMPLIFIED CARTcSIMPLIFIED WALKcWALK ONEdTWOcCITY",
  "cC-SIMPLIFIED GOLDcLONG ONEdTWOcC-SIMPLIFIED LONGdGATEcMOUND ONEdTWOcRAINcBLUE",
  "cC-SIMPLIFIED TANNED LEATHERdLEAFdWINDdFLYcEAT ONEdTWOdTHREEcC-SIMPLIFIED EATcHEAD",
  "cC-SIMPLIFIED HORSEcBONEcGHOSTcC-SIMPLIFIED FISHdBIRDdSALTcSIMPLIFIED WHEATdYELLOW",
  "cC-SIMPLIFIED FROGcJ-SIMPLIFIED EVENcC-SIMPLIFIED EVENcJ-SIMPLIFIED TOOTHcC-SIMPLIFIED TOOTH",
  "cJ-SIMPLIFIED DRAGONcC-SIMPLIFIED DRAGONcTURTLEcJ-SIMPLIFIED TURTLEcC-SIMPLIFIED TURTLE",
  ":2F00aKANGXI RADICAL ONEcLINEcDOTcSLASHcSECONDcHOOKcTWOcLIDcMANcLEGScENTERcEIGHTcDOWN BOX",
  "cCOVERcICEcTABLEcOPEN BOXcKNIFEcPOWERcWRAPcSPOONcRIGHT OPEN BOXcHIDING ENCLOSUREcTEN",
  "cDIVINATIONcSEALcCLIFFcPRIVATEcAGAINcMOUTHcENCLOSUREcEARTHcSCHOLARcGOdSLOWLYcEVENINGcBIG",
  "cWOMANcCHILDcROOFcINCHcSMALLcLAMEcCORPSEcSPROUTcMOUNTAINcRIVERcWORKcONESELFcTURBANcDRY",
  "cSHORT THREADcDOTTED CLIFFcLONG STRIDEcTWO HANDScSHOOTcBOWcSNOUTcBRISTLEcSTEPcHEARTcHALBERD",
  "cDOORcHANDcBRANCHcRAPcSCRIPTcDIPPERcAXEcSQUAREcNOTcSUNcSAYcMOONcTREEcLACKcSTOPcDEATHcWEAPON",
  "cDO NOTcCOMPAREcFURcCLANcSTEAMcWATERcFIREcCLAWcFATHERcDOUBLE XcHALF TREE TRUNKcSLICEcFANG",
  "cCOWcDOGcPROFOUNDcJADEcMELONcTILEcSWEETcLIFEcUSEcFIELDcBOLT OF CLOTHcSICKNESScDOTTED TENT",
  "cWHITEcSKINcDISHcEYEcSPEARcARROWcSTONEcSPIRITcTRACKcGRAINcCAVEcSTANDcBAMBOOcRICEcSILKcJAR",
  "cNETcSHEEPcFEATHERcOLDcANDcPLOWcEARcBRUSHcMEATcMINISTERcSELFcARRIVEcMORTARcTONGUEcOPPOSE",
  "cBOATcSTOPPINGcCOLORcGRASScTIGERcINSECTcBLOODcWALK ENCLOSUREcCLOTHEScWESTcSEEcHORNcSPEECH",
  "cVALLEYcBEANcPIGcBADGERcSHELLcREDcRUNcFOOTcBODYcCARTcBITTERcMORNINGcWALKcCITYcWINE",
  "cDISTINGUISHcVILLAGEcGOLDcLONGcGATEcMOUNDcSLAVEcSHORT TAILED BIRDcRAINcBLUEcWRONGcFACE",
  "cLEATHERcTANNED LEATHERcLEEKcSOUNDcLEAFcWINDcFLYcEATcHEADcFRAGRANTcHORSEcBONEcTALLcHAIR",
  "cFIGHTcSACRIFICIAL WINEcCAULDRONcGHOSTcFISHcBIRDcSALTcDEERcWHEATcHEMPcYELLOWcMILLETcBLACK",
  "cEMBROIDERYcFROGcTRIPODcDRUMcRATcNOSEcEVENcTOOTHcDRAGONcTURTLEcFLUTE",
  ":2FF0aIDEOGRAPHIC DESCRIPTION CHARACTER LEFT TO RIGHTdABOVE TO BELOW",
  "dLEFT TO MIDDLE AND RIGHTdABOVE TO MIDDLE AND BELOWdFULL SURROUNDdSURROUND FROM ABOVEfBELOW",
  "fLEFTfUPPER LEFTgRIGHTfLOWER LEFTdOVERLAID:3000bSPACEbCOMMAbFULL STOPaDITTO MARK",
  "aJAPANESE INDUSTRIAL STANDARD SYMBOLaIDEOGRAPHIC ITERATION MARKbCLOSING MARKbNUMBER ZERO",
  "aLEFT ANGLE BRACKETaRIGHT ANGLE BRACKETaLEFT DOUBLE ANGLE BRACKETaRIGHT DOUBLE ANGLE BRACKET",
  "aLEFT CORNER BRACKETaRIGHT CORNER BRACKETaLEFT WHITE CORNER BRACKET",
  "aRIGHT WHITE CORNER BRACKETaLEFT BLACK LENTICULAR BRACKETaRIGHT BLACK LENTICULAR BRACKET",
  "aPOSTAL MARKaGETA MARKaLEFT TORTOISE SHELL BRACKETaRIGHT TORTOISE SHELL BRACKET",
  "aLEFT WHITE LENTICULAR BRACKETaRIGHT WHITE LENTICULAR BRACKET",
  "aLEFT WHITE TORTOISE SHELL BRACKETaRIGHT WHITE TORTOISE SHELL BRACKET",
  "aLEFT WHITE SQUARE BRACKETaRIGHT WHITE SQUARE BRACKETaWAVE DASH",
  "aREVERSED DOUBLE PRIME QUOTATION MARKaDOUBLE PRIME QUOTATION MARK",
  "aLOW DOUBLE PRIME QUOTATION MARKaPOSTAL MARK FACEaHANGZHOU NUMERAL ONEcTWOcTHREEcFOURcFIVE",
  "cSIXcSEVENcEIGHTcNINEaIDEOGRAPHIC LEVEL TONE MARKbRISING TONE MARKbDEPARTING TONE MARK",
  "bENTERING TONE MARKaHANGUL SINGLE DOT TONE MARKbDOUBLE DOT TONE MARKaWAVY DASH",
  "aVERTICAL KANA REPEAT MARKdWITH VOICED SOUND MARKdMARK UPPER HALF",
  "dWITH VOICED SOUND MARK UPPER HALFdMARK LOWER HALFaCIRCLED POSTAL MARK",
  "aIDEOGRAPHIC TELEGRAPH LINE FEED SEPARATOR SYMBOLaHANGZHOU NUMERAL TENcTWENTYcTHIRTY",
  "aVERTICAL IDEOGRAPHIC ITERATION MARKaMASU MARKaPART ALTERNATION MARK",
  "aIDEOGRAPHIC VARIATION INDICATORbHALF FILL SPACE:3041aHIRAGANA LETTER SMALL AcAcSMALL IcI",
  "cSMALL UcUcSMALL EcEcSMALL OcOcKAcGAcKIcGIcKUcGUcKEcGEcKOcGOcSAcZAcSIcZIcSUcZUcSEcZEcSOcZO",
  "cTAcDAcTIcDIcSMALL TUcTUcDUcTEcDEcTOcDOcNAcNIcNUcNEcNOcHAcBAcPAcHIcBIcPIcHUcBUcPUcHEcBEcPE",
  "cHOcBOcPOcMAcMIcMUcMEcMOcSMALL YAcYAcSMALL YUcYUcSMALL YOcYOcRAcRIcRUcREcROcSMALL WAcWAcWI",
  "cWEcWOcNcVUcSMALL KAdKE:3099aCOMBINING KATAKANA-HIRAGANA VOICED SOUND MARK",
  "cSEMI-VOICED SOUND MARKaKATAKANA-HIRAGANA VOICED SOUND MARKbSEMI-VOICED SOUND MARK",
  "aHIRAGANA ITERATION MARKbVOICED ITERATION MARKbDIGRAPH YORIaKATAKANA-HIRAGANA DOUBLE HYPHEN",
  "aKATAKANA LETTER SMALL AcAcSMALL IcIcSMALL UcUcSMALL EcEcSMALL OcOcKAcGAcKIcGIcKUcGUcKEcGE",
  "cKOcGOcSAcZAcSIcZIcSUcZUcSEcZEcSOcZOcTAcDAcTIcDIcSMALL TUcTUcDUcTEcDEcTOcDOcNAcNIcNUcNEcNO",
  "cHAcBAcPAcHIcBIcPIcHUcBUcPUcHEcBEcPEcHOcBOcPOcMAcMIcMUcMEcMOcSMALL YAcYAcSMALL YUcYU",
  "cSMALL YOcYOcRAcRIcRUcREcROcSMALL WAcWAcWIcWEcWOcNcVUcSMALL KAdKEcVAcVIcVEcVObMIDDLE DOT",
  "aKATAKANA-HIRAGANA PROLONGED SOUND MARKaKATAKANA ITERATION MARKbVOICED ITERATION MARK",
  "bDIGRAPH KOTO:3105aBOPOMOFO LETTER BcPcMcFcDcTcNcLcGcKcHcJcQcXcZHcCHcSHcRcZcCcScAcOcEcEHcAI",
  "cEIcAUcOUcANcENcANGcENGcERcIcUcIUcVcNGcGNcIHcO WITH DOT ABOVEcNN:3131aHANGUL LETTER KIYEOK",
  "cSSANGKIYEOKcKIYEOK-SIOScNIEUNcNIEUN-CIEUCcNIEUN-HIEUHcTIKEUTcSSANGTIKEUTcRIEULcRIEUL-KIYEOK",
  "cRIEUL-MIEUMcRIEUL-PIEUPcRIEUL-SIOScRIEUL-THIEUTHcRIEUL-PHIEUPHcRIEUL-HIEUHcMIEUMcPIEUP",
  "cSSANGPIEUPcPIEUP-SIOScSIOScSSANGSIOScIEUNGcCIEUCcSSANGCIEUCcCHIEUCHcKHIEUKHcTHIEUTHcPHIEUPH",
  "cHIEUHcAcAEcYAcYAEcEOcEcYEOcYEcOcWAcWAEcOEcYOcUcWEOcWEcWIcYUcEUcYIcIbFILLER",
  "bLETTER SSANGNIEUNcNIEUN-TIKEUTcNIEUN-SIOScNIEUN-PANSIOScRIEUL-KIYEOK-SIOScRIEUL-TIKEUT",
  "cRIEUL-PIEUP-SIOScRIEUL-PANSIOScRIEUL-YEORINHIEUHcMIEUM-PIEUPcMIEUM-SIOScMIEUM-PANSIOS",
  "cKAPYEOUNMIEUMcPIEUP-KIYEOKcPIEUP-TIKEUTcPIEUP-SIOS-KIYEOKcPIEUP-SIOS-TIKEUTcPIEUP-CIEUC",
  "cPIEUP-THIEUTHcKAPYEOUNPIEUPcKAPYEOUNSSANGPIEUPcSIOS-KIYEOKcSIOS-NIEUNcSIOS-TIKEUT",
  "cSIOS-PIEUPcSIOS-CIEUCcPANSIOScSSANGIEUNGcYESIEUNGcYESIEUNG-SIOScYESIEUNG-PANSIOS",
  "cKAPYEOUNPHIEUPHcSSANGHIEUHcYEORINHIEUHcYO-YAcYO-YAEcYO-IcYU-YEOcYU-YEcYU-IcARAEAcARAEAE",
  ":3190aIDEOGRAPHIC ANNOTATION LINKING MARKcREVERSE MARKcONE MARKcTWO MARKcTHREE MARK",
  "cFOUR MARKcTOP MARKcMIDDLE MARKcBOTTOM MARKcFIRST MARKcSECOND MARKcTHIRD MARKcFOURTH MARK",
  "cHEAVEN MARKcEARTH MARKcMAN MARKaBOPOMOFO LETTER BUcZIcJIcGUcEEcENNcOOcONNcIRcANNcINNcUNNcIM",
  "cNGGcAINNcAUNNcAMcOMcONGcINNNbFINAL LETTER PdTdKdHbLETTER GHcLHcZYbFINAL LETTER GbLETTER GW",
  "cKWcOEcAHaCJK STROKE TcWGcXGcBXGcSWcHZZcHZGcHPcHZWGcSZWGcHZTcHZZPcHPWGcHZWcHZZZcNcHcScPcSPcD",
  "cHZcHGcSZcSWZcSTcSGcPDcPZcTNcSZZcSWGcHXWGcHZZZGcPGcQ:31F0aKATAKANA LETTER SMALL KUdSIdSUdTO",
  "dNUdHAdHIdHUdHEdHOdMUdRAdRIdRUdREdROaPARENTHESIZED HANGUL KIYEOKcNIEUNcTIKEUTcRIEULcMIEUM",
  "cPIEUPcSIOScIEUNGcCIEUCcCHIEUCHcKHIEUKHcTHIEUTHcPHIEUPHcHIEUHcKIYEOK AcNIEUN AcTIKEUT A",
  "cRIEUL AcMIEUM AcPIEUP AcSIOS AcIEUNG AcCIEUC AcCHIEUCH AcKHIEUKH AcTHIEUTH AcPHIEUPH A",
  "cHIEUH AcCIEUC UbKOREAN CHARACTER OJEONdO HU:3220bIDEOGRAPH ONEcTWOcTHREEcFOURcFIVEcSIX",
  "cSEVENcEIGHTcNINEcTENcMOONcFIREcWATERcWOODcMETALcEARTHcSUNcSTOCKcHAVEcSOCIETYcNAMEcSPECIAL",
  "cFINANCIALcCONGRATULATIONcLABORcREPRESENTcCALLcSTUDYcSUPERVISEcENTERPRISEcRESOURCEcALLIANCE",
  "cFESTIVALcRESTcSELFcREACHaCIRCLED IDEOGRAPH QUESTIONcKINDERGARTENcSCHOOLcKOTO",
  "bNUMBER TEN ON BLACK SQUAREcTWENTY ON BLACK SQUAREcTHIRTY ON BLACK SQUARE",
  "cFORTY ON BLACK SQUAREcFIFTY ON BLACK SQUAREcSIXTY ON BLACK SQUAREcSEVENTY ON BLACK SQUARE",
  "cEIGHTY ON BLACK SQUAREaPARTNERSHIP SIGNaCIRCLED NUMBER TWENTY ONEdTWOdTHREEdFOURdFIVEdSIX",
  "dSEVENdEIGHTdNINEcTHIRTYdONEdTWOdTHREEdFOURdFIVEbHANGUL KIYEOKcNIEUNcTIKEUTcRIEULcMIEUM",
  "cPIEUPcSIOScIEUNGcCIEUCcCHIEUCHcKHIEUKHcTHIEUTHcPHIEUPHcHIEUHcKIYEOK AcNIEUN AcTIKEUT A",
  "cRIEUL AcMIEUM AcPIEUP AcSIOS AcIEUNG AcCIEUC AcCHIEUCH AcKHIEUKH AcTHIEUTH AcPHIEUPH A",
  "cHIEUH AbKOREAN CHARACTER CHAMKOdJUEUIbHANGUL IEUNG UaKOREAN STANDARD SYMBOL",
  "aCIRCLED IDEOGRAPH ONEcTWOcTHREEcFOURcFIVEcSIXcSEVENcEIGHTcNINEcTENcMOONcFIREcWATERcWOOD",
  "cMETALcEARTHcSUNcSTOCKcHAVEcSOCIETYcNAMEcSPECIALcFINANCIALcCONGRATULATIONcLABORcSECRETcMALE",
  "cFEMALEcSUITABLEcEXCELLENTcPRINTcATTENTIONcITEMcRESTcCOPYcCORRECTcHIGHcCENTREcLOWcLEFTcRIGHT",
  "cMEDICINEcRELIGIONcSTUDYcSUPERVISEcENTERPRISEcRESOURCEcALLIANCEcNIGHTbNUMBER THIRTY SIX",
  "dSEVENdEIGHTdNINEcFORTYdONEdTWOdTHREEdFOURdFIVEdSIXdSEVENdEIGHTdNINEcFIFTY",
  "aIDEOGRAPHIC TELEGRAPH SYMBOL FOR JANUARYeFEBRUARYeMARCHeAPRILeMAYeJUNEeJULYeAUGUST",
  "eSEPTEMBEReOCTOBEReNOVEMBEReDECEMBERaSQUARE HGbERGbEVaLIMITED LIABILITY SIGN",
  "aCIRCLED KATAKANA AcIcUcEcOcKAcKIcKUcKEcKOcSAcSIcSUcSEcSOcTAcTIcTUcTEcTOcNAcNIcNUcNEcNOcHA",
  "cHIcHUcHEcHOcMAcMIcMUcMEcMOcYAcYUcYOcRAcRIcRUcREcROcWAcWIcWEcWOaSQUARE ERA NAME REIWAbAPAATO",
  "bARUHUAbANPEAbAARUbININGUbINTIbUONbESUKUUDObEEKAAbONSUbOOMUbKAIRIbKARATTObKARORIIbGARON",
  "bGANMAbGIGAbGINIIbKYURIIbGIRUDAAbKIRObKIROGURAMUbKIROMEETORUbKIROWATTObGURAMUbGURAMUTON",
  "bKURUZEIRObKUROONEbKEESUbKORUNAbKOOPObSAIKURUbSANTIIMUbSIRINGUbSENTIbSENTObDAASUbDESIbDORU",
  "bTONbNANObNOTTObHAITUbPAASENTObPAATUbBAARERUbPIASUTORUbPIKURUbPIKObBIRUbHUARADDObHUIITO",
  "bBUSSYERUbHURANbHEKUTAARUbPESObPENIHIbHERUTUbPENSUbPEEZIbBEETAbPOINTObBORUTObHONbPONDObHOORU",
  "bHOONbMAIKURObMAIRUbMAHHAbMARUKUbMANSYONbMIKURONbMIRIbMIRIBAARUbMEGAbMEGATONbMEETORUbYAADO",
  "bYAARUbYUANbRITTORUbRIRAbRUPIIbRUUBURUbREMUbRENTOGENbWATTO",
  "aIDEOGRAPHIC TELEGRAPH SYMBOL FOR HOUR ZEROfONEfTWOfTHREEfFOURfFIVEfSIXfSEVENfEIGHTfNINEfTEN",
  "fELEVENfTWELVEfTHIRTEENfFOURTEENfFIFTEENfSIXTEENfSEVENTEENfEIGHTEENfNINETEENfTWENTY",
  "fTWENTY-ONEfTWENTY-TWOfTWENTY-THREEfTWENTY-FOURaSQUARE HPAbDAbAUbBARbOVbPCbDMcSQUAREDcCUBED",
  "bIUbERA NAME HEISEIdSYOUWAdTAISYOUdMEIZIbCORPORATIONbPA AMPSbNAbMU AbMAbKAbKBbMBbGBbCALbKCAL",
  "bPFbNFbMU FcGbMGbKGbHZbKHZbMHZbGHZbTHZbMU LbMLbDLbKLbFMbNMbMU MbMMbCMbKMbMM SQUARED",
  "bCM SQUAREDbM SQUAREDbKM SQUAREDbMM CUBEDbCM CUBEDbM CUBEDbKM CUBEDbM OVER SeSQUAREDbPAbKPA",
  "bMPAbGPAbRADcOVER SeSQUAREDbPSbNSbMU SbMSbPVbNVbMU VbMVbKVbMV MEGAbPWbNWbMU WbMWbKWbMW MEGA",
  "bK OHMbM OHMbAMbBQbCCbCDbC OVER KGbCObDBbGYbHAbHPbINbKKbKM CAPITALbKTbLMbLNbLOGbLXbMB SMALL",
  "bMILbMOLbPHbPMbPPMbPRbSRbSVbWBbV OVER MbA OVER MaIDEOGRAPHIC TELEGRAPH SYMBOL FOR DAY ONE",
  "fTWOfTHREEfFOURfFIVEfSIXfSEVENfEIGHTfNINEfTENfELEVENfTWELVEfTHIRTEENfFOURTEENfFIFTEEN",
  "fSIXTEENfSEVENTEENfEIGHTEENfNINETEENfTWENTYfTWENTY-ONEfTWENTY-TWOfTWENTY-THREEfTWENTY-FOUR",
  "fTWENTY-FIVEfTWENTY-SIXfTWENTY-SEVENfTWENTY-EIGHTfTWENTY-NINEfTHIRTYfTHIRTY-ONEaSQUARE GAL",
  ":4DC0aHEXAGRAM FOR THE CREATIVE HEAVENdRECEPTIVE EARTHcDIFFICULTY AT THE BEGINNING",
  "cYOUTHFUL FOLLYcWAITINGcCONFLICTcTHE ARMYcHOLDING TOGETHERcSMALL TAMINGcTREADINGcPEACE",
  "cSTANDSTILLcFELLOWSHIPcGREAT POSSESSIONcMODESTYcENTHUSIASMcFOLLOWINGcWORK ON THE DECAYED",
  "cAPPROACHcCONTEMPLATIONcBITING THROUGHcGRACEcSPLITTING APARTcRETURNcINNOCENCEcGREAT TAMING",
  "cMOUTH CORNERScGREAT PREPONDERANCEcTHE ABYSMAL WATERdCLINGING FIREcINFLUENCEcDURATION",
  "cRETREATcGREAT POWERcPROGRESScDARKENING OF THE LIGHTcTHE FAMILYcOPPOSITIONcOBSTRUCTION",
  "cDELIVERANCEcDECREASEcINCREASEcBREAKTHROUGHcCOMING TO MEETcGATHERING TOGETHERcPUSHING UPWARD",
  "cOPPRESSIONcTHE WELLcREVOLUTIONcTHE CAULDRONdAROUSING THUNDERdKEEPING STILL MOUNTAIN",
  "cDEVELOPMENTcTHE MARRYING MAIDENcABUNDANCEcTHE WANDERERdGENTLE WINDdJOYOUS LAKEcDISPERSION",
  "cLIMITATIONcINNER TRUTHcSMALL PREPONDERANCEcAFTER COMPLETIONcBEFORE COMPLETION",
  ":A000aYI SYLLABLE ITcIXcIcIPcIETcIEXcIEcIEPcATcAXcAcAPcUOXcUOcUOPcOTcOXcOcOPcEXcEcWUcBITcBIX",
  "cBIcBIPcBIETcBIEXcBIEcBIEPcBATcBAXcBAcBAPcBUOXcBUOcBUOPcBOTcBOXcBOcBOPcBEXcBEcBEPcBUTcBUXcBU",
  "cBUPcBURXcBURcBYTcBYXcBYcBYPcBYRXcBYRcPITcPIXcPIcPIPcPIEXcPIEcPIEPcPATcPAXcPAcPAPcPUOXcPUO",
  "cPUOPcPOTcPOXcPOcPOPcPUTcPUXcPUcPUPcPURXcPURcPYTcPYXcPYcPYPcPYRXcPYRcBBITcBBIXcBBIcBBIP",
  "cBBIETcBBIEXcBBIEcBBIEPcBBATcBBAXcBBAcBBAPcBBUOXcBBUOcBBUOPcBBOTcBBOXcBBOcBBOPcBBEXcBBEcBBEP",
  "cBBUTcBBUXcBBUcBBUPcBBURXcBBURcBBYTcBBYXcBBYcBBYPcNBITcNBIXcNBIcNBIPcNBIEXcNBIEcNBIEPcNBAT",
  "cNBAXcNBAcNBAPcNBOTcNBOXcNBOcNBOPcNBUTcNBUXcNBUcNBUPcNBURXcNBURcNBYTcNBYXcNBYcNBYPcNBYRX",
  "cNBYRcHMITcHMIXcHMIcHMIPcHMIEXcHMIEcHMIEPcHMATcHMAXcHMAcHMAPcHMUOXcHMUOcHMUOPcHMOTcHMOXcHMO",
  "cHMOPcHMUTcHMUXcHMUcHMUPcHMURXcHMURcHMYXcHMYcHMYPcHMYRXcHMYRcMITcMIXcMIcMIPcMIEXcMIEcMIEP",
  "cMATcMAXcMAcMAPcMUOTcMUOXcMUOcMUOPcMOTcMOXcMOcMOPcMEXcMEcMUTcMUXcMUcMUPcMURXcMURcMYTcMYXcMY",
  "cMYPcFITcFIXcFIcFIPcFATcFAXcFAcFAPcFOXcFOcFOPcFUTcFUXcFUcFUPcFURXcFURcFYTcFYXcFYcFYPcVITcVIX",
  "cVIcVIPcVIETcVIEXcVIEcVIEPcVATcVAXcVAcVAPcVOTcVOXcVOcVOPcVEXcVEPcVUTcVUXcVUcVUPcVURXcVURcVYT",
  "cVYXcVYcVYPcVYRXcVYRcDITcDIXcDIcDIPcDIEXcDIEcDIEPcDATcDAXcDAcDAPcDUOXcDUOcDOTcDOXcDOcDOPcDEX",
  "cDEcDEPcDUTcDUXcDUcDUPcDURXcDURcTITcTIXcTIcTIPcTIEXcTIEcTIEPcTATcTAXcTAcTAPcTUOTcTUOXcTUO",
  "cTUOPcTOTcTOXcTOcTOPcTEXcTEcTEPcTUTcTUXcTUcTUPcTURXcTURcDDITcDDIXcDDIcDDIPcDDIEXcDDIEcDDIEP",
  "cDDATcDDAXcDDAcDDAPcDDUOXcDDUOcDDUOPcDDOTcDDOXcDDOcDDOPcDDEXcDDEcDDEPcDDUTcDDUXcDDUcDDUP",
  "cDDURXcDDURcNDITcNDIXcNDIcNDIPcNDIEXcNDIEcNDATcNDAXcNDAcNDAPcNDOTcNDOXcNDOcNDOPcNDEXcNDE",
  "cNDEPcNDUTcNDUXcNDUcNDUPcNDURXcNDURcHNITcHNIXcHNIcHNIPcHNIETcHNIEXcHNIEcHNIEPcHNATcHNAXcHNA",
  "cHNAPcHNUOXcHNUOcHNOTcHNOXcHNOPcHNEXcHNEcHNEPcHNUTcNITcNIXcNIcNIPcNIEXcNIEcNIEPcNAXcNAcNAP",
  "cNUOXcNUOcNUOPcNOTcNOXcNOcNOPcNEXcNEcNEPcNUTcNUXcNUcNUPcNURXcNURcHLITcHLIXcHLIcHLIPcHLIEX",
  "cHLIEcHLIEPcHLATcHLAXcHLAcHLAPcHLUOXcHLUOcHLUOPcHLOXcHLOcHLOPcHLEXcHLEcHLEPcHLUTcHLUXcHLU",
  "cHLUPcHLURXcHLURcHLYTcHLYXcHLYcHLYPcHLYRXcHLYRcLITcLIXcLIcLIPcLIETcLIEXcLIEcLIEPcLATcLAXcLA",
  "cLAPcLUOTcLUOXcLUOcLUOPcLOTcLOXcLOcLOPcLEXcLEcLEPcLUTcLUXcLUcLUPcLURXcLURcLYTcLYXcLYcLYP",
  "cLYRXcLYRcGITcGIXcGIcGIPcGIETcGIEXcGIEcGIEPcGATcGAXcGAcGAPcGUOTcGUOXcGUOcGUOPcGOTcGOXcGOcGOP",
  "cGETcGEXcGEcGEPcGUTcGUXcGUcGUPcGURXcGURcKITcKIXcKIcKIPcKIEXcKIEcKIEPcKATcKAXcKAcKAPcKUOXcKUO",
  "cKUOPcKOTcKOXcKOcKOPcKETcKEXcKEcKEPcKUTcKUXcKUcKUPcKURXcKURcGGITcGGIXcGGIcGGIEXcGGIEcGGIEP",
  "cGGATcGGAXcGGAcGGAPcGGUOTcGGUOXcGGUOcGGUOPcGGOTcGGOXcGGOcGGOPcGGETcGGEXcGGEcGGEPcGGUTcGGUX",
  "cGGUcGGUPcGGURXcGGURcMGIEXcMGIEcMGATcMGAXcMGAcMGAPcMGUOXcMGUOcMGUOPcMGOTcMGOXcMGOcMGOPcMGEX",
  "cMGEcMGEPcMGUTcMGUXcMGUcMGUPcMGURXcMGURcHXITcHXIXcHXIcHXIPcHXIETcHXIEXcHXIEcHXIEPcHXATcHXAX",
  "cHXAcHXAPcHXUOTcHXUOXcHXUOcHXUOPcHXOTcHXOXcHXOcHXOPcHXEXcHXEcHXEPcNGIEXcNGIEcNGIEPcNGATcNGAX",
  "cNGAcNGAPcNGUOTcNGUOXcNGUOcNGOTcNGOXcNGOcNGOPcNGEXcNGEcNGEPcHITcHIEXcHIEcHATcHAXcHAcHAPcHUOT",
  "cHUOXcHUOcHUOPcHOTcHOXcHOcHOPcHEXcHEcHEPcWATcWAXcWAcWAPcWUOXcWUOcWUOPcWOXcWOcWOPcWEXcWEcWEP",
  "cZITcZIXcZIcZIPcZIEXcZIEcZIEPcZATcZAXcZAcZAPcZUOXcZUOcZUOPcZOTcZOXcZOcZOPcZEXcZEcZEPcZUTcZUX",
  "cZUcZUPcZURXcZURcZYTcZYXcZYcZYPcZYRXcZYRcCITcCIXcCIcCIPcCIETcCIEXcCIEcCIEPcCATcCAXcCAcCAP",
  "cCUOXcCUOcCUOPcCOTcCOXcCOcCOPcCEXcCEcCEPcCUTcCUXcCUcCUPcCURXcCURcCYTcCYXcCYcCYPcCYRXcCYR",
  "cZZITcZZIXcZZIcZZIPcZZIETcZZIEXcZZIEcZZIEPcZZATcZZAXcZZAcZZAPcZZOXcZZOcZZOPcZZEXcZZEcZZEP",
  "cZZUXcZZUcZZUPcZZURXcZZURcZZYTcZZYXcZZYcZZYPcZZYRXcZZYRcNZITcNZIXcNZIcNZIPcNZIEXcNZIEcNZIEP",
  "cNZATcNZAXcNZAcNZAPcNZUOXcNZUOcNZOXcNZOPcNZEXcNZEcNZUXcNZUcNZUPcNZURXcNZURcNZYTcNZYXcNZY",
  "cNZYPcNZYRXcNZYRcSITcSIXcSIcSIPcSIEXcSIEcSIEPcSATcSAXcSAcSAPcSUOXcSUOcSUOPcSOTcSOXcSOcSOP",
  "cSEXcSEcSEPcSUTcSUXcSUcSUPcSURXcSURcSYTcSYXcSYcSYPcSYRXcSYRcSSITcSSIXcSSIcSSIPcSSIEXcSSIE",
  "cSSIEPcSSATcSSAXcSSAcSSAPcSSOTcSSOXcSSOcSSOPcSSEXcSSEcSSEPcSSUTcSSUXcSSUcSSUPcSSYTcSSYXcSSY",
  "cSSYPcSSYRXcSSYRcZHATcZHAXcZHAcZHAPcZHUOXcZHUOcZHUOPcZHOTcZHOXcZHOcZHOPcZHETcZHEXcZHEcZHEP",
  "cZHUTcZHUXcZHUcZHUPcZHURXcZHURcZHYTcZHYXcZHYcZHYPcZHYRXcZHYRcCHATcCHAXcCHAcCHAPcCHUOTcCHUOX",
  "cCHUOcCHUOPcCHOTcCHOXcCHOcCHOPcCHETcCHEXcCHEcCHEPcCHUXcCHUcCHUPcCHURXcCHURcCHYTcCHYXcCHY",
  "cCHYPcCHYRXcCHYRcRRAXcRRAcRRUOXcRRUOcRROTcRROXcRROcRROPcRRETcRREXcRREcRREPcRRUTcRRUXcRRU",
  "cRRUPcRRURXcRRURcRRYTcRRYXcRRYcRRYPcRRYRXcRRYRcNRATcNRAXcNRAcNRAPcNROXcNROcNROPcNRETcNREX",
  "cNREcNREPcNRUTcNRUXcNRUcNRUPcNRURXcNRURcNRYTcNRYXcNRYcNRYPcNRYRXcNRYRcSHATcSHAXcSHAcSHAP",
  "cSHUOXcSHUOcSHUOPcSHOTcSHOXcSHOcSHOPcSHETcSHEXcSHEcSHEPcSHUTcSHUXcSHUcSHUPcSHURXcSHURcSHYT",
  "cSHYXcSHYcSHYPcSHYRXcSHYRcRATcRAXcRAcRAPcRUOXcRUOcRUOPcROTcROXcROcROPcREXcREcREPcRUTcRUXcRU",
  "cRUPcRURXcRURcRYTcRYXcRYcRYPcRYRXcRYRcJITcJIXcJIcJIPcJIETcJIEXcJIEcJIEPcJUOTcJUOXcJUOcJUOP",
  "cJOTcJOXcJOcJOPcJUTcJUXcJUcJUPcJURXcJURcJYTcJYXcJYcJYPcJYRXcJYRcQITcQIXcQIcQIPcQIETcQIEXcQIE",
  "cQIEPcQUOTcQUOXcQUOcQUOPcQOTcQOXcQOcQOPcQUTcQUXcQUcQUPcQURXcQURcQYTcQYXcQYcQYPcQYRXcQYRcJJIT",
  "cJJIXcJJIcJJIPcJJIETcJJIEXcJJIEcJJIEPcJJUOXcJJUOcJJUOPcJJOTcJJOXcJJOcJJOPcJJUTcJJUXcJJUcJJUP",
  "cJJURXcJJURcJJYTcJJYXcJJYcJJYPcNJITcNJIXcNJIcNJIPcNJIETcNJIEXcNJIEcNJIEPcNJUOXcNJUOcNJOT",
  "cNJOXcNJOcNJOPcNJUXcNJUcNJUPcNJURXcNJURcNJYTcNJYXcNJYcNJYPcNJYRXcNJYRcNYITcNYIXcNYIcNYIP",
  "cNYIETcNYIEXcNYIEcNYIEPcNYUOXcNYUOcNYUOPcNYOTcNYOXcNYOcNYOPcNYUTcNYUXcNYUcNYUPcXITcXIXcXI",
  "cXIPcXIETcXIEXcXIEcXIEPcXUOXcXUOcXOTcXOXcXOcXOPcXYTcXYXcXYcXYPcXYRXcXYRcYITcYIXcYIcYIPcYIET",
  "cYIEXcYIEcYIEPcYUOTcYUOXcYUOcYUOPcYOTcYOXcYOcYOPcYUTcYUXcYUcYUPcYURXcYURcYYTcYYXcYYcYYPcYYRX",
  "cYYR:A490bRADICAL QOTcLIcKITcNYIPcCYPcSSIcGGOPcGEPcMIcHXITcLYRcBBUTcMOPcYOcPUTcHXUOcTATcGA",
  "cZUPcCYTcDDURcBURcGGUOcNYOPcTUcOPcJJUTcZOTcPYTcHMOcYITcVURcSHYcVEPcZAcJOcNZUPcJJYcGOTcJJIE",
  "cWOcDUcSHURcLIEcCYcCUOPcCIPcHXOPcSHATcZURcSHOPcCHEcZZIETcNBIEcKE:A4D0aLISU LETTER BAcPAcPHA",
  "cDAcTAcTHAcGAcKAcKHAcJAcCAcCHAcDZAcTSAcTSHAcMAcNAcLAcSAcZHAcZAcNGAcHAcXAcHHAcFAcWAcSHAcYA",
  "cGHAcAcAEcEcEUcIcOcUcUEcUHcOEcTONE MYA TIdNA POdMYA CYAeBOeNAeJEUbPUNCTUATION COMMA",
  "cFULL STOPaVAI SYLLABLE EEcEENcHEEcWEEcWEENcPEEcBHEEcBEEcMBEEcKPEEcMGBEEcGBEEcFEEcVEEcTEE",
  "cTHEEcDHEEcDHHEEcLEEcREEcDEEcNDEEcSEEcSHEEcZEEcZHEEcCEEcJEEcNJEEcYEEcKEEcNGGEEcGEEcMEEcNEE",
  "cNYEEcIcINcHIcHINcWIcWINcPIcBHIcBIcMBIcKPIcMGBIcGBIcFIcVIcTIcTHIcDHIcDHHIcLIcRIcDIcNDIcSI",
  "cSHIcZIcZHIcCIcJIcNJIcYIcKIcNGGIcGIcMIcNIcNYIcAcANcNGANcHAcHANcWAcWANcPAcBHAcBAcMBAcKPAcKPAN",
  "cMGBAcGBAcFAcVAcTAcTHAcDHAcDHHAcLAcRAcDAcNDAcSAcSHAcZAcZHAcCAcJAcNJAcYAcKAcKANcNGGAcGAcMAcNA",
  "cNYAcOOcOONcHOOcWOOcWOONcPOOcBHOOcBOOcMBOOcKPOOcMGBOOcGBOOcFOOcVOOcTOOcTHOOcDHOOcDHHOOcLOO",
  "cROOcDOOcNDOOcSOOcSHOOcZOOcZHOOcCOOcJOOcNJOOcYOOcKOOcNGGOOcGOOcMOOcNOOcNYOOcUcUNcHUcHUNcWU",
  "cWUNcPUcBHUcBUcMBUcKPUcMGBUcGBUcFUcVUcTUcTHUcDHUcDHHUcLUcRUcDUcNDUcSUcSHUcZUcZHUcCUcJUcNJU",
  "cYUcKUcNGGUcGUcMUcNUcNYUcOcONcNGONcHOcHONcWOcWONcPOcBHOcBOcMBOcKPOcMGBOcGBOcGBONcFOcVOcTO",
  "cTHOcDHOcDHHOcLOcROcDOcNDOcSOcSHOcZOcZHOcCOcJOcNJOcYOcKOcNGGOcGOcMOcNOcNYOcEcENcNGENcHEcHEN",
  "cWEcWENcPEcBHEcBEcMBEcKPEcKPENcMGBEcGBEcGBENcFEcVEcTEcTHEcDHEcDHHEcLEcREcDEcNDEcSEcSHEcZE",
  "cZHEcCEcJEcNJEcYEcKEcNGGEcNGGENcGEcGENcMEcNEcNYEcNGcLENGTHENERbCOMMAbFULL STOPbQUESTION MARK",
  "bSYLLABLE NDOLE FAdKAdSOObSYMBOL FEENGcKEENGcTINGcNIIcBANGcFAAcTAAcDANGcDOONGcKUNGcTONGcDO-O",
  "cJONGbDIGIT ZEROcONEcTWOcTHREEcFOURcFIVEcSIXcSEVENcEIGHTcNINEbSYLLABLE NDOLE MAdDO",
  ":A640aCYRILLIC CAPITAL LETTER ZEMLYAbSMALL LETTER ZEMLYAbCAPITAL LETTER DZELO",
  "bSMALL LETTER DZELObCAPITAL LETTER REVERSED DZEbSMALL LETTER REVERSED DZE",
  "bCAPITAL LETTER IOTAbSMALL LETTER IOTAbCAPITAL LETTER DJERVbSMALL LETTER DJERV",
  "bCAPITAL LETTER MONOGRAPH UKbSMALL LETTER MONOGRAPH UKbCAPITAL LETTER BROAD OMEGA",
  "bSMALL LETTER BROAD OMEGAbCAPITAL LETTER NEUTRAL YERbSMALL LETTER NEUTRAL YER",
  "bCAPITAL LETTER YERU WITH BACK YERbSMALL LETTER YERU WITH BACK YER",
  "bCAPITAL LETTER IOTIFIED YATbSMALL LETTER IOTIFIED YATbCAPITAL LETTER REVERSED YU",
  "bSMALL LETTER REVERSED YUbCAPITAL LETTER IOTIFIED AbSMALL LETTER IOTIFIED A",
  "bCAPITAL LETTER CLOSED LITTLE YUSbSMALL LETTER CLOSED LITTLE YUSbCAPITAL LETTER BLENDED YUS",
  "bSMALL LETTER BLENDED YUSbCAPITAL LETTER IOTIFIED CLOSED LITTLE YUS",
  "bSMALL LETTER IOTIFIED CLOSED LITTLE YUSbCAPITAL LETTER YNbSMALL LETTER YN",
  "bCAPITAL LETTER REVERSED TSEbSMALL LETTER REVERSED TSEbCAPITAL LETTER SOFT DE",
  "bSMALL LETTER SOFT DEbCAPITAL LETTER SOFT ELbSMALL LETTER SOFT ELbCAPITAL LETTER SOFT EM",
  "bSMALL LETTER SOFT EMbCAPITAL LETTER MONOCULAR ObSMALL LETTER MONOCULAR O",
  "bCAPITAL LETTER BINOCULAR ObSMALL LETTER BINOCULAR ObCAPITAL LETTER DOUBLE MONOCULAR O",
  "bSMALL LETTER DOUBLE MONOCULAR ObLETTER MULTIOCULAR OaCOMBINING CYRILLIC VZMET",
  "cTEN MILLIONS SIGNcHUNDRED MILLIONS SIGNcTHOUSAND MILLIONS SIGNaSLAVONIC ASTERISK",
  "aCOMBINING CYRILLIC LETTER UKRAINIAN IEdIdYIdUdHARD SIGNdYERUdSOFT SIGNdOMEGAcKAVYKAcPAYEROK",
  "aCYRILLIC KAVYKAbPAYEROKbCAPITAL LETTER DWEbSMALL LETTER DWEbCAPITAL LETTER DZWE",
  "bSMALL LETTER DZWEbCAPITAL LETTER ZHWEbSMALL LETTER ZHWEbCAPITAL LETTER CCHE",
  "bSMALL LETTER CCHEbCAPITAL LETTER DZZEbSMALL LETTER DZZEbCAPITAL LETTER TE WITH MIDDLE HOOK",
  "bSMALL LETTER TE WITH MIDDLE HOOKbCAPITAL LETTER TWEbSMALL LETTER TWEbCAPITAL LETTER TSWE",
  "bSMALL LETTER TSWEbCAPITAL LETTER TSSEbSMALL LETTER TSSEbCAPITAL LETTER TCHE",
  "bSMALL LETTER TCHEbCAPITAL LETTER HWEbSMALL LETTER HWEbCAPITAL LETTER SHWEbSMALL LETTER SHWE",
  "bCAPITAL LETTER DOUBLE ObSMALL LETTER DOUBLE ObCAPITAL LETTER CROSSED O",
  "bSMALL LETTER CROSSED OaMODIFIER LETTER CYRILLIC HARD SIGNdSOFT SIGN",
  "aCOMBINING CYRILLIC LETTER EFdIOTIFIED EaBAMUM LETTER AcKAcUcKUcEEcREEcTAEcOcNYIcIcLAcPAcRII",
  "cRIEEcLEEEEcMEEEEcTAAcNDAAcNJAEMcMcSUUcMUcSHIIcSIcSHEUXcSEUXcKYEEcKETcNUAEcNUcNJUAEcYOQcSHU",
  "cYUQcYAcNSHAcKEUXcPEUXcNJEEcNTEEcPUEcWUEcPEEcFEEcRUcLUcMIcNIcREUXcRAEcKENcNGKWAENcNGGAcNGA",
  "cSHOcPUAEcFUcFOMcWAcNAcLIcPIcLOQcKOcMBENcRENcMENcMAcTIcKIcMOcMBAAcTETcKPAcTENcNTUUcSAMBA",
  "cFAAMAEcKOVUUcKOGHOMbCOMBINING MARK KOQNDONdTUKWENTISbNJAEMLIbFULL STOPbCOLONbCOMMA",
  "bSEMICOLONbQUESTION MARK:A700aMODIFIER LETTER CHINESE TONE YIN PINGeYANG PINGeYIN SHANG",
  "eYANG SHANGeYIN QUeYANG QUeYIN RUeYANG RUcEXTRA-HIGH DOTTED TONE BARcHIGH DOTTED TONE BAR",
  "cMID DOTTED TONE BARcLOW DOTTED TONE BARcEXTRA-LOW DOTTED TONE BAR",
  "cEXTRA-HIGH DOTTED LEFT-STEM TONE BARcHIGH DOTTED LEFT-STEM TONE BAR",
  "cMID DOTTED LEFT-STEM TONE BARcLOW DOTTED LEFT-STEM TONE BAR",
  "cEXTRA-LOW DOTTED LEFT-STEM TONE BARcEXTRA-HIGH LEFT-STEM TONE BARcHIGH LEFT-STEM TONE BAR",
  "cMID LEFT-STEM TONE BARcLOW LEFT-STEM TONE BARcEXTRA-LOW LEFT-STEM TONE BARcDOT VERTICAL BAR",
  "dSLASHdHORIZONTAL BARcLOWER RIGHT CORNER ANGLEcRAISED UP ARROWdDOWN ARROWdEXCLAMATION MARK",
  "dINVERTED EXCLAMATION MARKcLOW INVERTED EXCLAMATION MARKcSTRESS AND HIGH TONEeLOW TONE",
  "aLATIN CAPITAL LETTER EGYPTOLOGICAL ALEFbSMALL LETTER EGYPTOLOGICAL ALEF",
  "bCAPITAL LETTER EGYPTOLOGICAL AINbSMALL LETTER EGYPTOLOGICAL AINbCAPITAL LETTER HENG",
  "bSMALL LETTER HENGbCAPITAL LETTER TZbSMALL LETTER TZbCAPITAL LETTER TRESILLO",
  "bSMALL LETTER TRESILLObCAPITAL LETTER CUATRILLObSMALL LETTER CUATRILLO",
  "bCAPITAL LETTER CUATRILLO WITH COMMAbSMALL LETTER CUATRILLO WITH COMMA",
  "bLETTER SMALL CAPITAL FeSbCAPITAL LETTER AAbSMALL LETTER AAbCAPITAL LETTER AO",
  "bSMALL LETTER AObCAPITAL LETTER AUbSMALL LETTER AUbCAPITAL LETTER AVbSMALL LETTER AV",
  "bCAPITAL LETTER AV WITH HORIZONTAL BARbSMALL LETTER AV WITH HORIZONTAL BARbCAPITAL LETTER AY",
  "bSMALL LETTER AYbCAPITAL LETTER REVERSED C WITH DOTbSMALL LETTER REVERSED C WITH DOT",
  "bCAPITAL LETTER K WITH STROKEbSMALL LETTER K WITH STROKE",
  "bCAPITAL LETTER K WITH DIAGONAL STROKEbSMALL LETTER K WITH DIAGONAL STROKE",
  "bCAPITAL LETTER K WITH STROKE AND DIAGONAL STROKE",
  "bSMALL LETTER K WITH STROKE AND DIAGONAL STROKEbCAPITAL LETTER BROKEN L",
  "bSMALL LETTER BROKEN LbCAPITAL LETTER L WITH HIGH STROKEbSMALL LETTER L WITH HIGH STROKE",
  "bCAPITAL LETTER O WITH LONG STROKE OVERLAYbSMALL LETTER O WITH LONG STROKE OVERLAY",
  "bCAPITAL LETTER O WITH LOOPbSMALL LETTER O WITH LOOPbCAPITAL LETTER OObSMALL LETTER OO",
  "bCAPITAL LETTER P WITH STROKE THROUGH DESCENDERbSMALL LETTER P WITH STROKE THROUGH DESCENDER",
  "bCAPITAL LETTER P WITH FLOURISHbSMALL LETTER P WITH FLOURISH",
  "bCAPITAL LETTER P WITH SQUIRREL TAILbSMALL LETTER P WITH SQUIRREL TAIL",
  "bCAPITAL LETTER Q WITH STROKE THROUGH DESCENDERbSMALL LETTER Q WITH STROKE THROUGH DESCENDER",
  "bCAPITAL LETTER Q WITH DIAGONAL STROKEbSMALL LETTER Q WITH DIAGONAL STROKE",
  "bCAPITAL LETTER R ROTUNDAbSMALL LETTER R ROTUNDAbCAPITAL LETTER RUM ROTUNDA",
  "bSMALL LETTER RUM ROTUNDAbCAPITAL LETTER V WITH DIAGONAL STROKE",
  "bSMALL LETTER V WITH DIAGONAL STROKEbCAPITAL LETTER VYbSMALL LETTER VY",
  "bCAPITAL LETTER VISIGOTHIC ZbSMALL LETTER VISIGOTHIC ZbCAPITAL LETTER THORN WITH STROKE",
  "bSMALL LETTER THORN WITH STROKEbCAPITAL LETTER THORN WITH STROKE THROUGH DESCENDER",
  "bSMALL LETTER THORN WITH STROKE THROUGH DESCENDERbCAPITAL LETTER VENDbSMALL LETTER VEND",
  "bCAPITAL LETTER ETbSMALL LETTER ETbCAPITAL LETTER ISbSMALL LETTER ISbCAPITAL LETTER CON",
  "bSMALL LETTER CONaMODIFIER LETTER USaLATIN SMALL LETTER DUMdLUMdMUMdNUMdRUM",
  "bLETTER SMALL CAPITAL RUMbSMALL LETTER TUMdUMbCAPITAL LETTER INSULAR D",
  "bSMALL LETTER INSULAR DbCAPITAL LETTER INSULAR FbSMALL LETTER INSULAR F",
  "bCAPITAL LETTER INSULAR GdTURNED INSULAR GbSMALL LETTER TURNED INSULAR G",
  "bCAPITAL LETTER TURNED LbSMALL LETTER TURNED LbCAPITAL LETTER INSULAR R",
  "bSMALL LETTER INSULAR RbCAPITAL LETTER INSULAR SbSMALL LETTER INSULAR S",
  "bCAPITAL LETTER INSULAR TbSMALL LETTER INSULAR TaMODIFIER LETTER LOW CIRCUMFLEX ACCENTcCOLON",
  "cSHORT EQUALS SIGNaLATIN CAPITAL LETTER SALTILLObSMALL LETTER SALTILLO",
  "bCAPITAL LETTER TURNED HbSMALL LETTER L WITH RETROFLEX HOOK AND BELTbLETTER SINOLOGICAL DOT",
  "bCAPITAL LETTER N WITH DESCENDERbSMALL LETTER N WITH DESCENDERbCAPITAL LETTER C WITH BAR",
  "bSMALL LETTER C WITH BARfPALATAL HOOKdH WITH PALATAL HOOKbCAPITAL LETTER B WITH FLOURISH",
  "bSMALL LETTER B WITH FLOURISHbCAPITAL LETTER F WITH STROKEbSMALL LETTER F WITH STROKE",
  "bCAPITAL LETTER VOLAPUK AEbSMALL LETTER VOLAPUK AEbCAPITAL LETTER VOLAPUK OE",
  "bSMALL LETTER VOLAPUK OEbCAPITAL LETTER VOLAPUK UEbSMALL LETTER VOLAPUK UE",
  "bCAPITAL LETTER G WITH OBLIQUE STROKEbSMALL LETTER G WITH OBLIQUE STROKE",
  "bCAPITAL LETTER K WITH OBLIQUE STROKEbSMALL LETTER K WITH OBLIQUE STROKE",
  "bCAPITAL LETTER N WITH OBLIQUE STROKEbSMALL LETTER N WITH OBLIQUE STROKE",
  "bCAPITAL LETTER R WITH OBLIQUE STROKEbSMALL LETTER R WITH OBLIQUE STROKE",
  "bCAPITAL LETTER S WITH OBLIQUE STROKEbSMALL LETTER S WITH OBLIQUE STROKE",
  "bCAPITAL LETTER H WITH HOOKdREVERSED OPEN EdSCRIPT GdL WITH BELTdSMALL CAPITAL I",
  "bLETTER SMALL CAPITAL QbCAPITAL LETTER TURNED KeTdJ WITH CROSSED-TAILdCHIdBETA",
  "bSMALL LETTER BETAbCAPITAL LETTER OMEGAbSMALL LETTER OMEGAbCAPITAL LETTER U WITH STROKE",
  "bSMALL LETTER U WITH STROKEbCAPITAL LETTER GLOTTAL AbSMALL LETTER GLOTTAL A",
  "bCAPITAL LETTER GLOTTAL IbSMALL LETTER GLOTTAL IbCAPITAL LETTER GLOTTAL U",
  "bSMALL LETTER GLOTTAL UbCAPITAL LETTER OLD POLISH ObSMALL LETTER OLD POLISH O",
  "bCAPITAL LETTER ANGLICANA WbSMALL LETTER ANGLICANA WbCAPITAL LETTER C WITH PALATAL HOOK",
  "dS WITH HOOKdZ WITH PALATAL HOOKdD WITH SHORT STROKE OVERLAY",
  "bSMALL LETTER D WITH SHORT STROKE OVERLAYbCAPITAL LETTER S WITH SHORT STROKE OVERLAY",
  "bSMALL LETTER S WITH SHORT STROKE OVERLAY:A7D0bCAPITAL LETTER CLOSED INSULAR G",
  "bSMALL LETTER CLOSED INSULAR G:A7D3dDOUBLE THORN:A7D5eWYNNbCAPITAL LETTER MIDDLE SCOTS S",
  "bSMALL LETTER MIDDLE SCOTS SbCAPITAL LETTER SIGMOID SbSMALL LETTER SIGMOID S",
  ":A7F2aMODIFIER LETTER CAPITAL CdFdQaLATIN CAPITAL LETTER REVERSED HALF H",
  "bSMALL LETTER REVERSED HALF HbEPIGRAPHIC LETTER SIDEWAYS I",
  "aMODIFIER LETTER CAPITAL H WITH STROKEcSMALL LIGATURE OEaLATIN LETTER SMALL CAPITAL TURNED M",
  "bEPIGRAPHIC LETTER REVERSED FePdINVERTED MdI LONGAdARCHAIC MaSYLOTI NAGRI LETTER AdI",
  "cSIGN DVISVARAcLETTER UdEdOcSIGN HASANTAcLETTER KOdKHOdGOdGHOcSIGN ANUSVARAcLETTER COdCHOdJO",
  "dJHOdTTOdTTHOdDDOdDDHOdTOdTHOdDOdDHOdNOdPOdPHOdBOdBHOdMOdROdLOdRROdSOdHOcVOWEL SIGN AeIeUeE",
  "eOOcPOETRY MARK-1dMARK-2dMARK-3dMARK-4cSIGN ALTERNATE HASANTA",
  ":A830aNORTH INDIC FRACTION ONE QUARTEReHALFdTHREE QUARTERSdONE SIXTEENTHeEIGHTH",
  "dTHREE SIXTEENTHScQUARTER MARKcPLACEHOLDER MARKcRUPEE MARKcQUANTITY MARK",
  ":A840aPHAGS-PA LETTER KAcKHAcGAcNGAcCAcCHAcJAcNYAcTAcTHAcDAcNAcPAcPHAcBAcMAcTSAcTSHAcDZAcWA",
  "cZHAcZAcSMALL AcYAcRAcLAcSHAcSAcHAcAcIcUcEcOcQAcXAcFAcGGAcEEbSUBJOINED LETTER WAdYA",
  "bLETTER TTAcTTHAcDDAcNNAcALTERNATE YAcVOICELESS SHAcVOICED HAcASPIRATED FA",
  "bSUBJOINED LETTER RAbSUPERFIXED LETTER RAbLETTER CANDRABINDUbSINGLE HEAD MARK",
  "bDOUBLE HEAD MARKbMARK SHADcDOUBLE SHAD:A880aSAURASHTRA SIGN ANUSVARAcVISARGAbLETTER AcAAcI",
  "cIIcUcUUcVOCALIC RdRRdLdLLcEcEEcAIcOcOOcAUcKAcKHAcGAcGHAcNGAcCAcCHAcJAcJHAcNYAcTTAcTTHAcDDA",
  "cDDHAcNNAcTAcTHAcDAcDHAcNAcPAcPHAcBAcBHAcMAcYAcRAcLAcVAcSHAcSSAcSAcHAcLLA",
  "bCONSONANT SIGN HAARUbVOWEL SIGN AAdIdIIdUdUUdVOCALIC ReRReLeLLdEdEEdAIdOdOOdAUbSIGN VIRAMA",
  "cCANDRABINDU:A8CEbDANDAbDOUBLE DANDAbDIGIT ZEROcONEcTWOcTHREEcFOURcFIVEcSIXcSEVENcEIGHTcNINE",
  ":A8E0aCOMBINING DEVANAGARI DIGIT ZEROdONEdTWOdTHREEdFOURdFIVEdSIXdSEVENdEIGHTdNINEcLETTER A",
  "dUdKAdNAdPAdRAdVIcSIGN AVAGRAHAaDEVANAGARI SIGN SPACING CANDRABINDUcCANDRABINDU VIRAMA",
  "cDOUBLE CANDRABINDU VIRAMAcCANDRABINDU TWOdTHREEdAVAGRAHAcPUSHPIKAbGAP FILLERbCARET",
  "bHEADSTROKEbSIGN SIDDHAMbJAIN OMbLETTER AYbVOWEL SIGN AYaKAYAH LI DIGIT ZEROdONEdTWOdTHREE",
  "dFOURdFIVEdSIXdSEVENdEIGHTdNINEcLETTER KAdKHAdGAdNGAdSAdSHAdZAdNYAdTAdHTAdNAdPAdPHAdMAdDAdBA",
  "dRAdYAdLAdWAdTHAdHAdVAdCAdAdOEdIdOOcVOWEL UEdEdUdEEdOcTONE PLOPHUdCALYAePLOPHUcSIGN CWIdSHYA",
  "aREJANG LETTER KAcGAcNGAcTAcDAcNAcPAcBAcMAcCAcJAcNYAcSAcRAcLAcYAcWAcHAcMBAcNGGAcNDAcNYJAcA",
  "bVOWEL SIGN IdUdEdAIdOdAUdEUdEAbCONSONANT SIGN NGdNdRdHbVIRAMA:A95FbSECTION MARK",
  "aHANGUL CHOSEONG TIKEUT-MIEUMcTIKEUT-PIEUPcTIKEUT-SIOScTIKEUT-CIEUCcRIEUL-KIYEOK",
  "cRIEUL-SSANGKIYEOKcRIEUL-TIKEUTcRIEUL-SSANGTIKEUTcRIEUL-MIEUMcRIEUL-PIEUPcRIEUL-SSANGPIEUP",
  "cRIEUL-KAPYEOUNPIEUPcRIEUL-SIOScRIEUL-CIEUCcRIEUL-KHIEUKHcMIEUM-KIYEOKcMIEUM-TIKEUT",
  "cMIEUM-SIOScPIEUP-SIOS-THIEUTHcPIEUP-KHIEUKHcPIEUP-HIEUHcSSANGSIOS-PIEUPcIEUNG-RIEUL",
  "cIEUNG-HIEUHcSSANGCIEUC-HIEUHcSSANGTHIEUTHcPHIEUPH-HIEUHcHIEUH-SIOScSSANGYEORINHIEUH",
  ":A980aJAVANESE SIGN PANYANGGAcCECAKcLAYARcWIGNYANbLETTER AcI KAWIcIcIIcUcPA CEREKcNGA LELET",
  "eRASWADIcEcAIcOcKAdSASAKdMURDAcGAdMURDAcNGAcCAdMURDAcJAcNYA MURDAcJA MAHAPRANAcNYAcTTA",
  "dMAHAPRANAcDDAdMAHAPRANAcNA MURDAcTAdMURDAcDAdMAHAPRANAcNAcPAdMURDAcBAdMURDAcMAcYAcRAdAGUNG",
  "cLAcWAcSA MURDAdMAHAPRANAcSAcHAbSIGN CECAK TELUbVOWEL SIGN TARUNGdTOLONGdWULUeMELIKdSUKU",
  "eMENDUTdTALINGdDIRGA MUREdPEPETbCONSONANT SIGN KERET"]

/-- The names of characters from U+A9BE to U+10FBB. -/
def namesFromA9BE : List String := [
  ":A9BEaJAVANESE CONSONANT SIGN PENGKALdCAKRAbPANGKONbLEFT RERENGGANbRIGHT RERENGGAN",
  "bPADA ANDAPcMADYAcLUHURcWINDUcPANGKATcLINGSAcLUNGSIcADEGdADEGcPISELEHbTURNED PADA PISELEH",
  ":A9CFbPANGRANGKEPbDIGIT ZEROcONEcTWOcTHREEcFOURcFIVEcSIXcSEVENcEIGHTcNINE",
  ":A9DEbPADA TIRTA TUMETEScISEN-ISENaMYANMAR LETTER SHAN GHAdCHAdJHAdNNAdBHAbSIGN SHAN SAW",
  "bMODIFIER LETTER SHAN REDUPLICATIONbLETTER TAI LAING NYAeFAeGAeGHAeJAeJHAeDDAeDDHAeNNA",
  "bTAI LAING DIGIT ZEROeONEeTWOeTHREEeFOUReFIVEeSIXeSEVENeEIGHTeNINEbLETTER TAI LAING LLAeDA",
  "eDHAeBAeBHA:AA00aCHAM LETTER AcIcUcEcAIcOcKAcKHAcGAcGHAcNGUEcNGAcCHAcCHHAcJAcJHAcNHUEcNHA",
  "cNHJAcTAcTHAcDAcDHAcNUEcNAcDDAcPAcPPAcPHAcBAcBHAcMUEcMAcBBAcYAcRAcLAcVAcSSAcSAcHA",
  "bVOWEL SIGN AAdIdIIdEIdUdOEdOdAIdAUdUEbCONSONANT SIGN YAdRAdLAdWA:AA40bLETTER FINAL KdGdNG",
  "bCONSONANT SIGN FINAL NGbLETTER FINAL CHdTdNdPdYdRdLdSSbCONSONANT SIGN FINAL MeH",
  ":AA50bDIGIT ZEROcONEcTWOcTHREEcFOURcFIVEcSIXcSEVENcEIGHTcNINE:AA5CbPUNCTUATION SPIRALcDANDA",
  "cDOUBLE DANDAcTRIPLE DANDAaMYANMAR LETTER KHAMTI GAdCAdCHAdJAdJHAdNYAdTTAdTTHAdDDAdDDHAdDHA",
  "dNAdSAdHAdHHAdFAbMODIFIER LETTER KHAMTI REDUPLICATIONbLETTER KHAMTI XAdZAdRA",
  "bLOGOGRAM KHAMTI OAYdQNdHMbSYMBOL AITON EXCLAMATIONdONEdTWObLETTER AITON RA",
  "bSIGN PAO KAREN TONEcTAI LAING TONE-2eTONE-5bLETTER SHWE PALAUNG CHAeSHA",
  "aTAI VIET LETTER LOW KOdHIGH KOdLOW KHOdHIGH KHOdLOW KHHOdHIGH KHHOdLOW GOdHIGH GOdLOW NGO",
  "dHIGH NGOdLOW COdHIGH COdLOW CHOdHIGH CHOdLOW SOdHIGH SOdLOW NYOdHIGH NYOdLOW DOdHIGH DO",
  "dLOW TOdHIGH TOdLOW THOdHIGH THOdLOW NOdHIGH NOdLOW BOdHIGH BOdLOW POdHIGH POdLOW PHO",
  "dHIGH PHOdLOW FOdHIGH FOdLOW MOdHIGH MOdLOW YOdHIGH YOdLOW ROdHIGH ROdLOW LOdHIGH LOdLOW VO",
  "dHIGH VOdLOW HOdHIGH HOdLOW OdHIGH OcMAI KANGcVOWEL AAdIdUEdUdEdOcMAI KHITcVOWEL IAdUEAdUA",
  "dAUEdAYdANdAMcTONE MAI EKeNUENGeTHOeSONG:AADBcSYMBOL KONdNUENGdSAMdHO HOIdKOI KOI",
  "aMEETEI MAYEK LETTER EdOdCHAdNYAdTTAdTTHAdDDAdDDHAdNNAdSHAdSSAcVOWEL SIGN IIeUUeAAIeAUeAAU",
  "cCHEIKHANcAHANG KHUDAMcANJIcSYLLABLE REPETITION MARKcWORD REPETITION MARKcVOWEL SIGN VISARGA",
  "cVIRAMA:AB01aETHIOPIC SYLLABLE TTHUcTTHIcTTHAAcTTHEEcTTHEcTTHO:AB09cDDHUcDDHIcDDHAAcDDHEE",
  "cDDHEcDDHO:AB11cDZUcDZIcDZAAcDZEEcDZEcDZO:AB20cCCHHAcCCHHUcCCHHIcCCHHAAcCCHHEEcCCHHEcCCHHO",
  ":AB28cBBAcBBUcBBIcBBAAcBBEEcBBEcBBO:AB30aLATIN SMALL LETTER BARRED ALPHAdA REVERSED-SCHWA",
  "dBLACKLETTER EdBARRED EdE WITH FLOURISHdLENIS FdSCRIPT G WITH CROSSED-TAIL",
  "dL WITH INVERTED LAZY SfDOUBLE MIDDLE TILDEfMIDDLE RINGdM WITH CROSSED-TAIL",
  "dN WITH CROSSED-TAILdENG WITH CROSSED-TAILdBLACKLETTER OfWITH STROKEdOPEN O WITH STROKE",
  "dINVERTED OEdTURNED OE WITH STROKEgHORIZONTAL STROKEeO OPEN-OgWITH STROKEdSTIRRUP R",
  "bLETTER SMALL CAPITAL R WITH RIGHT LEGbSMALL LETTER R WITHOUT HANDLEdDOUBLE R",
  "dR WITH CROSSED-TAILdDOUBLE R WITH CROSSED-TAILdSCRIPT RfWITH RINGdBASELINE ESH",
  "dU WITH SHORT RIGHT LEGeBAR WITH SHORT RIGHT LEGdUIdTURNED UIdU WITH LEFT HOOKdCHI",
  "eWITH LOW RIGHT RINGgLEFT SERIFdX WITH LOW RIGHT RINGfLONG LEFT LEGiAND LOW RIGHT RING",
  "iWITH SERIFdY WITH SHORT RIGHT LEGaMODIFIER BREVE WITH INVERTED BREVEbLETTER SMALL HENG",
  "dL WITH INVERTED LAZY SfMIDDLE TILDEdU WITH LEFT HOOKaLATIN SMALL LETTER SAKHA YAT",
  "dIOTIFIED EdOPEN OEdUOdINVERTED ALPHAaGREEK LETTER SMALL CAPITAL OMEGA",
  "aLATIN SMALL LETTER DZ DIGRAPH WITH RETROFLEX HOOKdTS DIGRAPH WITH RETROFLEX HOOK",
  "dTURNED R WITH MIDDLE TILDEaMODIFIER LETTER SMALL TURNED WcLEFT TACKcRIGHT TACK",
  ":AB70aCHEROKEE SMALL LETTER AdEdIdOdUdVdGAdKAdGEdGIdGOdGUdGVdHAdHEdHIdHOdHUdHVdLAdLEdLIdLO",
  "dLUdLVdMAdMEdMIdMOdMUdNAdHNAdNAHdNEdNIdNOdNUdNVdQUAdQUEdQUIdQUOdQUUdQUVdSAdSdSEdSIdSOdSUdSV",
  "dDAdTAdDEdTEdDIdTIdDOdDUdDVdDLAdTLAdTLEdTLIdTLOdTLUdTLVdTSAdTSEdTSIdTSOdTSUdTSVdWAdWEdWIdWO",
  "dWUdWVdYAaMEETEI MAYEK LETTER KOKdSAMdLAIdMITdPAdNAdCHILdTILdKHOUdNGOUdTHOUdWAIdYANGdHUKdUN",
  "dIdPHAMdATIYAdGOKdJHAMdRAIdBAdJILdDILdGHOUdDHOUdBHAMdKOK LONSUMdLAI LONSUMdMIT LONSUM",
  "dPA LONSUMdNA LONSUMdTIL LONSUMdNGOU LONSUMdI LONSUMcVOWEL SIGN ONAPeINAPeANAPeYENAPeSOUNAP",
  "eUNAPeCHEINAPeNUNGcCHEIKHEIcLUM IYEKcAPUN IYEK:ABF0cDIGIT ZEROdONEdTWOdTHREEdFOURdFIVEdSIX",
  "dSEVENdEIGHTdNINE:D7B0aHANGUL JUNGSEONG O-YEOcO-O-IcYO-AcYO-AEcYO-EOcU-YEOcU-I-IcYU-AEcYU-O",
  "cEU-AcEU-EOcEU-EcEU-OcI-YA-OcI-YAEcI-YEOcI-YEcI-O-IcI-YOcI-YUcI-IcARAEA-AcARAEA-E",
  ":D7CBbJONGSEONG NIEUN-RIEULcNIEUN-CHIEUCHcSSANGTIKEUTcSSANGTIKEUT-PIEUPcTIKEUT-PIEUP",
  "cTIKEUT-SIOScTIKEUT-SIOS-KIYEOKcTIKEUT-CIEUCcTIKEUT-CHIEUCHcTIKEUT-THIEUTHcRIEUL-SSANGKIYEOK",
  "cRIEUL-KIYEOK-HIEUHcSSANGRIEUL-KHIEUKHcRIEUL-MIEUM-HIEUHcRIEUL-PIEUP-TIKEUT",
  "cRIEUL-PIEUP-PHIEUPHcRIEUL-YESIEUNGcRIEUL-YEORINHIEUH-HIEUHcKAPYEOUNRIEULcMIEUM-NIEUN",
  "cMIEUM-SSANGNIEUNcSSANGMIEUMcMIEUM-PIEUP-SIOScMIEUM-CIEUCcPIEUP-TIKEUTcPIEUP-RIEUL-PHIEUPH",
  "cPIEUP-MIEUMcSSANGPIEUPcPIEUP-SIOS-TIKEUTcPIEUP-CIEUCcPIEUP-CHIEUCHcSIOS-MIEUM",
  "cSIOS-KAPYEOUNPIEUPcSSANGSIOS-KIYEOKcSSANGSIOS-TIKEUTcSIOS-PANSIOScSIOS-CIEUCcSIOS-CHIEUCH",
  "cSIOS-THIEUTHcSIOS-HIEUHcPANSIOS-PIEUPcPANSIOS-KAPYEOUNPIEUPcYESIEUNG-MIEUMcYESIEUNG-HIEUH",
  "cCIEUC-PIEUPcCIEUC-SSANGPIEUPcSSANGCIEUCcPHIEUPH-SIOScPHIEUPH-THIEUTH",
  ":FB00aLATIN SMALL LIGATURE FFdFIdFLdFFIdFFLdLONG S TdST:FB13aARMENIAN SMALL LIGATURE MEN NOW",
  "eECHeINIdVEW NOWdMEN XEH:FB1DaHEBREW LETTER YOD WITH HIRIQbPOINT JUDEO-SPANISH VARIKA",
  "bLIGATURE YIDDISH YOD YOD PATAHbLETTER ALTERNATIVE AYINcWIDE ALEFdDALETdHEdKAFdLAMED",
  "dFINAL MEMdRESHdTAVcALTERNATIVE PLUS SIGNcSHIN WITH SHIN DOTeSIN DOTeDAGESH AND SHIN DOT",
  "gSIN DOTcALEF WITH PATAHeQAMATSeMAPIQcBET WITH DAGESHcGIMEL WITH DAGESHcDALET WITH DAGESH",
  "cHE WITH MAPIQcVAV WITH DAGESHcZAYIN WITH DAGESH:FB38cTET WITH DAGESHcYOD WITH DAGESH",
  "cFINAL KAF WITH DAGESHcKAF WITH DAGESHcLAMED WITH DAGESH:FB3EcMEM WITH DAGESH",
  ":FB40cNUN WITH DAGESHcSAMEKH WITH DAGESH:FB43cFINAL PE WITH DAGESHcPE WITH DAGESH",
  ":FB46cTSADI WITH DAGESHcQOF WITH DAGESHcRESH WITH DAGESHcSHIN WITH DAGESHcTAV WITH DAGESH",
  "cVAV WITH HOLAMcBET WITH RAFEcKAF WITH RAFEcPE WITH RAFEbLIGATURE ALEF LAMED",
  "aARABIC LETTER ALEF WASLA ISOLATED FORMeFINAL FORMcBEEH ISOLATED FORMdFINAL FORM",
  "dINITIAL FORMdMEDIAL FORMcPEH ISOLATED FORMdFINAL FORMdINITIAL FORMdMEDIAL FORM",
  "cBEHEH ISOLATED FORMdFINAL FORMdINITIAL FORMdMEDIAL FORMcTTEHEH ISOLATED FORMdFINAL FORM",
  "dINITIAL FORMdMEDIAL FORMcTEHEH ISOLATED FORMdFINAL FORMdINITIAL FORMdMEDIAL FORM",
  "cTTEH ISOLATED FORMdFINAL FORMdINITIAL FORMdMEDIAL FORMcVEH ISOLATED FORMdFINAL FORM",
  "dINITIAL FORMdMEDIAL FORMcPEHEH ISOLATED FORMdFINAL FORMdINITIAL FORMdMEDIAL FORM",
  "cDYEH ISOLATED FORMdFINAL FORMdINITIAL FORMdMEDIAL FORMcNYEH ISOLATED FORMdFINAL FORM",
  "dINITIAL FORMdMEDIAL FORMcTCHEH ISOLATED FORMdFINAL FORMdINITIAL FORMdMEDIAL FORM",
  "cTCHEHEH ISOLATED FORMdFINAL FORMdINITIAL FORMdMEDIAL FORMcDDAHAL ISOLATED FORMdFINAL FORM",
  "cDAHAL ISOLATED FORMdFINAL FORMcDUL ISOLATED FORMdFINAL FORMcDDAL ISOLATED FORMdFINAL FORM",
  "cJEH ISOLATED FORMdFINAL FORMcRREH ISOLATED FORMdFINAL FORMcKEHEH ISOLATED FORMdFINAL FORM",
  "dINITIAL FORMdMEDIAL FORMcGAF ISOLATED FORMdFINAL FORMdINITIAL FORMdMEDIAL FORM",
  "cGUEH ISOLATED FORMdFINAL FORMdINITIAL FORMdMEDIAL FORMcNGOEH ISOLATED FORMdFINAL FORM",
  "dINITIAL FORMdMEDIAL FORMcNOON GHUNNA ISOLATED FORMeFINAL FORMcRNOON ISOLATED FORM",
  "dFINAL FORMdINITIAL FORMdMEDIAL FORMcHEH WITH YEH ABOVE ISOLATED FORMgFINAL FORM",
  "dGOAL ISOLATED FORMeFINAL FORMeINITIAL FORMeMEDIAL FORMdDOACHASHMEE ISOLATED FORMeFINAL FORM",
  "eINITIAL FORMeMEDIAL FORMcYEH BARREE ISOLATED FORMeFINAL FORMeWITH HAMZA ABOVE ISOLATED FORM",
  "hFINAL FORMbSYMBOL DOT ABOVEdBELOWcTWO DOTS ABOVEeBELOWcTHREE DOTS ABOVEeBELOW",
  "ePOINTING DOWNWARDS ABOVEgBELOWcFOUR DOTS ABOVEeBELOWcDOUBLE VERTICAL BAR BELOW",
  "cTWO DOTS VERTICALLY ABOVEfBELOWcRINGcSMALL TAH ABOVEeBELOWcWASLA ABOVE",
  ":FBD3bLETTER NG ISOLATED FORMdFINAL FORMdINITIAL FORMdMEDIAL FORMcU ISOLATED FORMdFINAL FORM",
  "cOE ISOLATED FORMdFINAL FORMcYU ISOLATED FORMdFINAL FORMcU WITH HAMZA ABOVE ISOLATED FORM",
  "cVE ISOLATED FORMdFINAL FORMcKIRGHIZ OE ISOLATED FORMeFINAL FORMdYU ISOLATED FORMeFINAL FORM",
  "cE ISOLATED FORMdFINAL FORMdINITIAL FORMdMEDIAL FORM",
  "cUIGHUR KAZAKH KIRGHIZ ALEF MAKSURA INITIAL FORMhMEDIAL FORM",
  "bLIGATURE YEH WITH HAMZA ABOVE WITH ALEF ISOLATED FORMiFINAL FORMhAE ISOLATED FORM",
  "iFINAL FORMhWAW ISOLATED FORMiFINAL FORMhU ISOLATED FORMiFINAL FORMhOE ISOLATED FORM",
  "iFINAL FORMhYU ISOLATED FORMiFINAL FORMhE ISOLATED FORMiFINAL FORMiINITIAL FORM",
  "cUIGHUR KIRGHIZ YEH WITH HAMZA ABOVE WITH ALEF MAKSURA ISOLATED FORMlFINAL FORMlINITIAL FORM",
  "bLETTER FARSI YEH ISOLATED FORMeFINAL FORMeINITIAL FORMeMEDIAL FORM",
  "bLIGATURE YEH WITH HAMZA ABOVE WITH JEEM ISOLATED FORMhHAH ISOLATED FORMhMEEM ISOLATED FORM",
  "hALEF MAKSURA ISOLATED FORMhYEH ISOLATED FORMcBEH WITH JEEM ISOLATED FORMeHAH ISOLATED FORM",
  "eKHAH ISOLATED FORMeMEEM ISOLATED FORMeALEF MAKSURA ISOLATED FORMeYEH ISOLATED FORM",
  "cTEH WITH JEEM ISOLATED FORMeHAH ISOLATED FORMeKHAH ISOLATED FORMeMEEM ISOLATED FORM",
  "eALEF MAKSURA ISOLATED FORMeYEH ISOLATED FORMcTHEH WITH JEEM ISOLATED FORM",
  "eMEEM ISOLATED FORMeALEF MAKSURA ISOLATED FORMeYEH ISOLATED FORMcJEEM WITH HAH ISOLATED FORM",
  "eMEEM ISOLATED FORMcHAH WITH JEEM ISOLATED FORMeMEEM ISOLATED FORM",
  "cKHAH WITH JEEM ISOLATED FORMeHAH ISOLATED FORMeMEEM ISOLATED FORM",
  "cSEEN WITH JEEM ISOLATED FORMeHAH ISOLATED FORMeKHAH ISOLATED FORMeMEEM ISOLATED FORM",
  "cSAD WITH HAH ISOLATED FORMeMEEM ISOLATED FORMcDAD WITH JEEM ISOLATED FORMeHAH ISOLATED FORM",
  "eKHAH ISOLATED FORMeMEEM ISOLATED FORMcTAH WITH HAH ISOLATED FORMeMEEM ISOLATED FORM",
  "cZAH WITH MEEM ISOLATED FORMcAIN WITH JEEM ISOLATED FORMeMEEM ISOLATED FORM",
  "cGHAIN WITH JEEM ISOLATED FORMeMEEM ISOLATED FORMcFEH WITH JEEM ISOLATED FORM",
  "eHAH ISOLATED FORMeKHAH ISOLATED FORMeMEEM ISOLATED FORMeALEF MAKSURA ISOLATED FORM",
  "eYEH ISOLATED FORMcQAF WITH HAH ISOLATED FORMeMEEM ISOLATED FORMeALEF MAKSURA ISOLATED FORM",
  "eYEH ISOLATED FORMcKAF WITH ALEF ISOLATED FORMeJEEM ISOLATED FORMeHAH ISOLATED FORM",
  "eKHAH ISOLATED FORMeLAM ISOLATED FORMeMEEM ISOLATED FORMeALEF MAKSURA ISOLATED FORM",
  "eYEH ISOLATED FORMcLAM WITH JEEM ISOLATED FORMeHAH ISOLATED FORMeKHAH ISOLATED FORM",
  "eMEEM ISOLATED FORMeALEF MAKSURA ISOLATED FORMeYEH ISOLATED FORM",
  "cMEEM WITH JEEM ISOLATED FORMeHAH ISOLATED FORMeKHAH ISOLATED FORMeMEEM ISOLATED FORM",
  "eALEF MAKSURA ISOLATED FORMeYEH ISOLATED FORMcNOON WITH JEEM ISOLATED FORMeHAH ISOLATED FORM",
  "eKHAH ISOLATED FORMeMEEM ISOLATED FORMeALEF MAKSURA ISOLATED FORMeYEH ISOLATED FORM",
  "cHEH WITH JEEM ISOLATED FORMeMEEM ISOLATED FORMeALEF MAKSURA ISOLATED FORMeYEH ISOLATED FORM",
  "cYEH WITH JEEM ISOLATED FORMeHAH ISOLATED FORMeKHAH ISOLATED FORMeMEEM ISOLATED FORM",
  "eALEF MAKSURA ISOLATED FORMeYEH ISOLATED FORMcTHAL WITH SUPERSCRIPT ALEF ISOLATED FORM",
  "cREH WITH SUPERSCRIPT ALEF ISOLATED FORMcALEF MAKSURA WITH SUPERSCRIPT ALEF ISOLATED FORM",
  "cSHADDA WITH DAMMATAN ISOLATED FORMeKASRATAN ISOLATED FORMeFATHA ISOLATED FORM",
  "eDAMMA ISOLATED FORMeKASRA ISOLATED FORMeSUPERSCRIPT ALEF ISOLATED FORM",
  "cYEH WITH HAMZA ABOVE WITH REH FINAL FORMhZAIN FINAL FORMhMEEM FINAL FORMhNOON FINAL FORM",
  "hALEF MAKSURA FINAL FORMhYEH FINAL FORMcBEH WITH REH FINAL FORMeZAIN FINAL FORM",
  "eMEEM FINAL FORMeNOON FINAL FORMeALEF MAKSURA FINAL FORMeYEH FINAL FORM",
  "cTEH WITH REH FINAL FORMeZAIN FINAL FORMeMEEM FINAL FORMeNOON FINAL FORM",
  "eALEF MAKSURA FINAL FORMeYEH FINAL FORMcTHEH WITH REH FINAL FORMeZAIN FINAL FORM",
  "eMEEM FINAL FORMeNOON FINAL FORMeALEF MAKSURA FINAL FORMeYEH FINAL FORM",
  "cFEH WITH ALEF MAKSURA FINAL FORMeYEH FINAL FORMcQAF WITH ALEF MAKSURA FINAL FORM",
  "eYEH FINAL FORMcKAF WITH ALEF FINAL FORMeLAM FINAL FORMeMEEM FINAL FORM",
  "eALEF MAKSURA FINAL FORMeYEH FINAL FORMcLAM WITH MEEM FINAL FORMeALEF MAKSURA FINAL FORM",
  "eYEH FINAL FORMcMEEM WITH ALEF FINAL FORMeMEEM FINAL FORMcNOON WITH REH FINAL FORM",
  "eZAIN FINAL FORMeMEEM FINAL FORMeNOON FINAL FORMeALEF MAKSURA FINAL FORMeYEH FINAL FORM",
  "cALEF MAKSURA WITH SUPERSCRIPT ALEF FINAL FORMcYEH WITH REH FINAL FORMeZAIN FINAL FORM",
  "eMEEM FINAL FORMeNOON FINAL FORMeALEF MAKSURA FINAL FORMeYEH FINAL FORM",
  "eHAMZA ABOVE WITH JEEM INITIAL FORMhHAH INITIAL FORMhKHAH INITIAL FORMhMEEM INITIAL FORM",
  "hHEH INITIAL FORMcBEH WITH JEEM INITIAL FORMeHAH INITIAL FORMeKHAH INITIAL FORM",
  "eMEEM INITIAL FORMeHEH INITIAL FORMcTEH WITH JEEM INITIAL FORMeHAH INITIAL FORM",
  "eKHAH INITIAL FORMeMEEM INITIAL FORMeHEH INITIAL FORMcTHEH WITH MEEM INITIAL FORM",
  "cJEEM WITH HAH INITIAL FORMeMEEM INITIAL FORMcHAH WITH JEEM INITIAL FORMeMEEM INITIAL FORM",
  "cKHAH WITH JEEM INITIAL FORMeMEEM INITIAL FORMcSEEN WITH JEEM INITIAL FORMeHAH INITIAL FORM",
  "eKHAH INITIAL FORMeMEEM INITIAL FORMcSAD WITH HAH INITIAL FORMeKHAH INITIAL FORM",
  "eMEEM INITIAL FORMcDAD WITH JEEM INITIAL FORMeHAH INITIAL FORMeKHAH INITIAL FORM",
  "eMEEM INITIAL FORMcTAH WITH HAH INITIAL FORMcZAH WITH MEEM INITIAL FORM",
  "cAIN WITH JEEM INITIAL FORMeMEEM INITIAL FORMcGHAIN WITH JEEM INITIAL FORMeMEEM INITIAL FORM",
  "cFEH WITH JEEM INITIAL FORMeHAH INITIAL FORMeKHAH INITIAL FORMeMEEM INITIAL FORM",
  "cQAF WITH HAH INITIAL FORMeMEEM INITIAL FORMcKAF WITH JEEM INITIAL FORMeHAH INITIAL FORM",
  "eKHAH INITIAL FORMeLAM INITIAL FORMeMEEM INITIAL FORMcLAM WITH JEEM INITIAL FORM",
  "eHAH INITIAL FORMeKHAH INITIAL FORMeMEEM INITIAL FORMeHEH INITIAL FORM",
  "cMEEM WITH JEEM INITIAL FORMeHAH INITIAL FORMeKHAH INITIAL FORMeMEEM INITIAL FORM",
  "cNOON WITH JEEM INITIAL FORMeHAH INITIAL FORMeKHAH INITIAL FORMeMEEM INITIAL FORM",
  "eHEH INITIAL FORMcHEH WITH JEEM INITIAL FORMeMEEM INITIAL FORMeSUPERSCRIPT ALEF INITIAL FORM",
  "cYEH WITH JEEM INITIAL FORMeHAH INITIAL FORMeKHAH INITIAL FORMeMEEM INITIAL FORM",
  "eHEH INITIAL FORMeHAMZA ABOVE WITH MEEM MEDIAL FORMhHEH MEDIAL FORM",
  "cBEH WITH MEEM MEDIAL FORMeHEH MEDIAL FORMcTEH WITH MEEM MEDIAL FORMeHEH MEDIAL FORM",
  "cTHEH WITH MEEM MEDIAL FORMeHEH MEDIAL FORMcSEEN WITH MEEM MEDIAL FORMeHEH MEDIAL FORM",
  "cSHEEN WITH MEEM MEDIAL FORMeHEH MEDIAL FORMcKAF WITH LAM MEDIAL FORMeMEEM MEDIAL FORM",
  "cLAM WITH MEEM MEDIAL FORMcNOON WITH MEEM MEDIAL FORMeHEH MEDIAL FORM",
  "cYEH WITH MEEM MEDIAL FORMeHEH MEDIAL FORMcSHADDA WITH FATHA MEDIAL FORMeDAMMA MEDIAL FORM",
  "eKASRA MEDIAL FORMcTAH WITH ALEF MAKSURA ISOLATED FORMeYEH ISOLATED FORM",
  "cAIN WITH ALEF MAKSURA ISOLATED FORMeYEH ISOLATED FORMcGHAIN WITH ALEF MAKSURA ISOLATED FORM",
  "eYEH ISOLATED FORMcSEEN WITH ALEF MAKSURA ISOLATED FORMeYEH ISOLATED FORM",
  "cSHEEN WITH ALEF MAKSURA ISOLATED FORMeYEH ISOLATED FORMcHAH WITH ALEF MAKSURA ISOLATED FORM",
  "eYEH ISOLATED FORMcJEEM WITH ALEF MAKSURA ISOLATED FORMeYEH ISOLATED FORM",
  "cKHAH WITH ALEF MAKSURA ISOLATED FORMeYEH ISOLATED FORMcSAD WITH ALEF MAKSURA ISOLATED FORM",
  "eYEH ISOLATED FORMcDAD WITH ALEF MAKSURA ISOLATED FORMeYEH ISOLATED FORM",
  "cSHEEN WITH JEEM ISOLATED FORMeHAH ISOLATED FORMeKHAH ISOLATED FORMeMEEM ISOLATED FORM",
  "eREH ISOLATED FORMcSEEN WITH REH ISOLATED FORMcSAD WITH REH ISOLATED FORM",
  "cDAD WITH REH ISOLATED FORMcTAH WITH ALEF MAKSURA FINAL FORMeYEH FINAL FORM",
  "cAIN WITH ALEF MAKSURA FINAL FORMeYEH FINAL FORMcGHAIN WITH ALEF MAKSURA FINAL FORM",
  "eYEH FINAL FORMcSEEN WITH ALEF MAKSURA FINAL FORMeYEH FINAL FORM",
  "cSHEEN WITH ALEF MAKSURA FINAL FORMeYEH FINAL FORMcHAH WITH ALEF MAKSURA FINAL FORM",
  "eYEH FINAL FORMcJEEM WITH ALEF MAKSURA FINAL FORMeYEH FINAL FORM",
  "cKHAH WITH ALEF MAKSURA FINAL FORMeYEH FINAL FORMcSAD WITH ALEF MAKSURA FINAL FORM",
  "eYEH FINAL FORMcDAD WITH ALEF MAKSURA FINAL FORMeYEH FINAL FORMcSHEEN WITH JEEM FINAL FORM",
  "eHAH FINAL FORMeKHAH FINAL FORMeMEEM FINAL FORMeREH FINAL FORMcSEEN WITH REH FINAL FORM",
  "cSAD WITH REH FINAL FORMcDAD WITH REH FINAL FORMcSHEEN WITH JEEM INITIAL FORM",
  "eHAH INITIAL FORMeKHAH INITIAL FORMeMEEM INITIAL FORMcSEEN WITH HEH INITIAL FORM",
  "cSHEEN WITH HEH INITIAL FORMcTAH WITH MEEM INITIAL FORMcSEEN WITH JEEM MEDIAL FORM",
  "eHAH MEDIAL FORMeKHAH MEDIAL FORMcSHEEN WITH JEEM MEDIAL FORMeHAH MEDIAL FORM",
  "eKHAH MEDIAL FORMcTAH WITH MEEM MEDIAL FORMcZAH WITH MEEM MEDIAL FORM",
  "cALEF WITH FATHATAN FINAL FORMfISOLATED FORMaORNATE LEFT PARENTHESISbRIGHT PARENTHESIS",
  "aARABIC LIGATURE RAHIMAHU ALLAAHcRADI ALLAAHU ANHeANHAAeANHUMeANHUMAAeANHUNNA",
  "cSALLALLAAHU ALAYHI WA-AALIHcALAYHI AS-SALAAMcALAYHIM AS-SALAAMcALAYHIMAA AS-SALAAM",
  "cALAYHI AS-SALAATU WAS-SALAAMcQUDDISA SIRRAHcSALLALLAHU ALAYHI WAAALIHEE WA-SALLAM",
  "cALAYHAA AS-SALAAMcTABAARAKA WA-TAAALAAcRAHIMAHUM ALLAAH",
  "cTEH WITH JEEM WITH MEEM INITIAL FORMeHAH WITH JEEM FINAL FORMhINITIAL FORM",
  "gMEEM INITIAL FORMeKHAH WITH MEEM INITIAL FORMeMEEM WITH JEEM INITIAL FORMgHAH INITIAL FORM",
  "gKHAH INITIAL FORMcJEEM WITH MEEM WITH HAH FINAL FORMhINITIAL FORM",
  "cHAH WITH MEEM WITH YEH FINAL FORMgALEF MAKSURA FINAL FORM",
  "cSEEN WITH HAH WITH JEEM INITIAL FORMeJEEM WITH HAH INITIAL FORMgALEF MAKSURA FINAL FORM",
  "eMEEM WITH HAH FINAL FORMhINITIAL FORMgJEEM INITIAL FORMgMEEM FINAL FORMhINITIAL FORM",
  "cSAD WITH HAH WITH HAH FINAL FORMhINITIAL FORMeMEEM WITH MEEM FINAL FORM",
  "cSHEEN WITH HAH WITH MEEM FINAL FORMhINITIAL FORMeJEEM WITH YEH FINAL FORM",
  "eMEEM WITH KHAH FINAL FORMhINITIAL FORMgMEEM FINAL FORMhINITIAL FORM",
  "cDAD WITH HAH WITH ALEF MAKSURA FINAL FORMeKHAH WITH MEEM FINAL FORMhINITIAL FORM",
  "cTAH WITH MEEM WITH HAH FINAL FORMhINITIAL FORMgMEEM INITIAL FORMgYEH FINAL FORM",
  "cAIN WITH JEEM WITH MEEM FINAL FORMeMEEM WITH MEEM FINAL FORMhINITIAL FORM",
  "gALEF MAKSURA FINAL FORMcGHAIN WITH MEEM WITH MEEM FINAL FORMgYEH FINAL FORM",
  "gALEF MAKSURA FINAL FORMcFEH WITH KHAH WITH MEEM FINAL FORMhINITIAL FORM",
  "cQAF WITH MEEM WITH HAH FINAL FORMgMEEM FINAL FORMcLAM WITH HAH WITH MEEM FINAL FORM",
  "gYEH FINAL FORMgALEF MAKSURA FINAL FORMeJEEM WITH JEEM INITIAL FORMhFINAL FORM",
  "eKHAH WITH MEEM FINAL FORMhINITIAL FORMeMEEM WITH HAH FINAL FORMhINITIAL FORM",
  "cMEEM WITH HAH WITH JEEM INITIAL FORMgMEEM INITIAL FORMgYEH FINAL FORM",
  "eJEEM WITH HAH INITIAL FORMgMEEM INITIAL FORMeKHAH WITH JEEM INITIAL FORMgMEEM INITIAL FORM",
  ":FD92eJEEM WITH KHAH INITIAL FORMcHEH WITH MEEM WITH JEEM INITIAL FORMgMEEM INITIAL FORM",
  "cNOON WITH HAH WITH MEEM INITIAL FORMgALEF MAKSURA FINAL FORMeJEEM WITH MEEM FINAL FORM",
  "hINITIAL FORMgALEF MAKSURA FINAL FORMeMEEM WITH YEH FINAL FORMgALEF MAKSURA FINAL FORM",
  "cYEH WITH MEEM WITH MEEM FINAL FORMhINITIAL FORMcBEH WITH KHAH WITH YEH FINAL FORM",
  "cTEH WITH JEEM WITH YEH FINAL FORMgALEF MAKSURA FINAL FORMeKHAH WITH YEH FINAL FORM",
  "gALEF MAKSURA FINAL FORMeMEEM WITH YEH FINAL FORMgALEF MAKSURA FINAL FORM",
  "cJEEM WITH MEEM WITH YEH FINAL FORMeHAH WITH ALEF MAKSURA FINAL FORM",
  "eMEEM WITH ALEF MAKSURA FINAL FORMcSEEN WITH KHAH WITH ALEF MAKSURA FINAL FORM",
  "cSAD WITH HAH WITH YEH FINAL FORMcSHEEN WITH HAH WITH YEH FINAL FORM",
  "cDAD WITH HAH WITH YEH FINAL FORMcLAM WITH JEEM WITH YEH FINAL FORMeMEEM WITH YEH FINAL FORM",
  "cYEH WITH HAH WITH YEH FINAL FORMeJEEM WITH YEH FINAL FORMeMEEM WITH YEH FINAL FORM",
  "cMEEM WITH MEEM WITH YEH FINAL FORMcQAF WITH MEEM WITH YEH FINAL FORM",
  "cNOON WITH HAH WITH YEH FINAL FORMcQAF WITH MEEM WITH HAH INITIAL FORM",
  "cLAM WITH HAH WITH MEEM INITIAL FORMcAIN WITH MEEM WITH YEH FINAL FORM",
  "cKAF WITH MEEM WITH YEH FINAL FORMcNOON WITH JEEM WITH HAH INITIAL FORM",
  "cMEEM WITH KHAH WITH YEH FINAL FORMcLAM WITH JEEM WITH MEEM INITIAL FORM",
  "cKAF WITH MEEM WITH MEEM FINAL FORMcLAM WITH JEEM WITH MEEM FINAL FORM",
  "cNOON WITH JEEM WITH HAH FINAL FORMcJEEM WITH HAH WITH YEH FINAL FORM",
  "cHAH WITH JEEM WITH YEH FINAL FORMcMEEM WITH JEEM WITH YEH FINAL FORM",
  "cFEH WITH MEEM WITH YEH FINAL FORMcBEH WITH HAH WITH YEH FINAL FORM",
  "cKAF WITH MEEM WITH MEEM INITIAL FORMcAIN WITH JEEM WITH MEEM INITIAL FORM",
  "cSAD WITH MEEM WITH MEEM INITIAL FORMcSEEN WITH KHAH WITH YEH FINAL FORM",
  "cNOON WITH JEEM WITH YEH FINAL FORM:FDCFcSALAAMUHU ALAYNAA",
  ":FDF0cSALLA USED AS KORANIC STOP SIGN ISOLATED FORM",
  "cQALA USED AS KORANIC STOP SIGN ISOLATED FORMcALLAH ISOLATED FORMcAKBAR ISOLATED FORM",
  "cMOHAMMAD ISOLATED FORMcSALAM ISOLATED FORMcRASOUL ISOLATED FORMcALAYHE ISOLATED FORM",
  "cWASALLAM ISOLATED FORMcSALLA ISOLATED FORMcSALLALLAHOU ALAYHE WASALLAMcJALLAJALALOUHOU",
  "aRIAL SIGNaARABIC LIGATURE BISMILLAH AR-RAHMAN AR-RAHEEMcSUBHAANAHU WA TAAALAAcAZZA WA JALL",
  ":FE10aPRESENTATION FORM FOR VERTICAL COMMAeIDEOGRAPHIC COMMAfFULL STOPeCOLONeSEMICOLON",
  "eEXCLAMATION MARKeQUESTION MARKeLEFT WHITE LENTICULAR BRACKETeRIGHT WHITE LENTICULAR BRAKCET",
  "eHORIZONTAL ELLIPSIS:FE20aCOMBINING LIGATURE LEFT HALFcRIGHT HALFbDOUBLE TILDE LEFT HALF",
  "dRIGHT HALFbMACRON LEFT HALFcRIGHT HALFbCONJOINING MACRONbLIGATURE LEFT HALF BELOW",
  "cRIGHT HALF BELOWbTILDE LEFT HALF BELOWcRIGHT HALF BELOWbMACRON LEFT HALF BELOW",
  "cRIGHT HALF BELOWbCONJOINING MACRON BELOWbCYRILLIC TITLO LEFT HALFdRIGHT HALF",
  "aPRESENTATION FORM FOR VERTICAL TWO DOT LEADEReEM DASHeEN DASHeLOW LINEeWAVY LOW LINE",
  "eLEFT PARENTHESISeRIGHT PARENTHESISeLEFT CURLY BRACKETeRIGHT CURLY BRACKET",
  "eLEFT TORTOISE SHELL BRACKETeRIGHT TORTOISE SHELL BRACKETeLEFT BLACK LENTICULAR BRACKET",
  "eRIGHT BLACK LENTICULAR BRACKETeLEFT DOUBLE ANGLE BRACKETeRIGHT DOUBLE ANGLE BRACKET",
  "eLEFT ANGLE BRACKETeRIGHT ANGLE BRACKETeLEFT CORNER BRACKETeRIGHT CORNER BRACKET",
  "eLEFT WHITE CORNER BRACKETeRIGHT WHITE CORNER BRACKETaSESAME DOTaWHITE SESAME DOT",
  "aPRESENTATION FORM FOR VERTICAL LEFT SQUARE BRACKETeRIGHT SQUARE BRACKETaDASHED OVERLINE",
  "aCENTRELINE OVERLINEaWAVY OVERLINEaDOUBLE WAVY OVERLINEaDASHED LOW LINEaCENTRELINE LOW LINE",
  "aWAVY LOW LINEaSMALL COMMAbIDEOGRAPHIC COMMAbFULL STOP:FE54bSEMICOLONbCOLONbQUESTION MARK",
  "bEXCLAMATION MARKbEM DASHbLEFT PARENTHESISbRIGHT PARENTHESISbLEFT CURLY BRACKET",
  "bRIGHT CURLY BRACKETbLEFT TORTOISE SHELL BRACKETbRIGHT TORTOISE SHELL BRACKETbNUMBER SIGN",
  "bAMPERSANDbASTERISKbPLUS SIGNbHYPHEN-MINUSbLESS-THAN SIGNbGREATER-THAN SIGNbEQUALS SIGN",
  ":FE68bREVERSE SOLIDUSbDOLLAR SIGNbPERCENT SIGNbCOMMERCIAL AT",
  ":FE70aARABIC FATHATAN ISOLATED FORMbTATWEEL WITH FATHATAN ABOVEbDAMMATAN ISOLATED FORM",
  "bTAIL FRAGMENTbKASRATAN ISOLATED FORM:FE76bFATHA ISOLATED FORMcMEDIAL FORM",
  "bDAMMA ISOLATED FORMcMEDIAL FORMbKASRA ISOLATED FORMcMEDIAL FORMbSHADDA ISOLATED FORM",
  "cMEDIAL FORMbSUKUN ISOLATED FORMcMEDIAL FORMbLETTER HAMZA ISOLATED FORM",
  "cALEF WITH MADDA ABOVE ISOLATED FORMgFINAL FORMeHAMZA ABOVE ISOLATED FORMgFINAL FORM",
  "cWAW WITH HAMZA ABOVE ISOLATED FORMgFINAL FORMcALEF WITH HAMZA BELOW ISOLATED FORM",
  "gFINAL FORMcYEH WITH HAMZA ABOVE ISOLATED FORMgFINAL FORMgINITIAL FORMgMEDIAL FORM",
  "cALEF ISOLATED FORMdFINAL FORMcBEH ISOLATED FORMdFINAL FORMdINITIAL FORMdMEDIAL FORM",
  "cTEH MARBUTA ISOLATED FORMeFINAL FORMdISOLATED FORMdFINAL FORMdINITIAL FORMdMEDIAL FORM",
  "cTHEH ISOLATED FORMdFINAL FORMdINITIAL FORMdMEDIAL FORMcJEEM ISOLATED FORMdFINAL FORM",
  "dINITIAL FORMdMEDIAL FORMcHAH ISOLATED FORMdFINAL FORMdINITIAL FORMdMEDIAL FORM",
  "cKHAH ISOLATED FORMdFINAL FORMdINITIAL FORMdMEDIAL FORMcDAL ISOLATED FORMdFINAL FORM",
  "cTHAL ISOLATED FORMdFINAL FORMcREH ISOLATED FORMdFINAL FORMcZAIN ISOLATED FORMdFINAL FORM",
  "cSEEN ISOLATED FORMdFINAL FORMdINITIAL FORMdMEDIAL FORMcSHEEN ISOLATED FORMdFINAL FORM",
  "dINITIAL FORMdMEDIAL FORMcSAD ISOLATED FORMdFINAL FORMdINITIAL FORMdMEDIAL FORM",
  "cDAD ISOLATED FORMdFINAL FORMdINITIAL FORMdMEDIAL FORMcTAH ISOLATED FORMdFINAL FORM",
  "dINITIAL FORMdMEDIAL FORMcZAH ISOLATED FORMdFINAL FORMdINITIAL FORMdMEDIAL FORM",
  "cAIN ISOLATED FORMdFINAL FORMdINITIAL FORMdMEDIAL FORMcGHAIN ISOLATED FORMdFINAL FORM",
  "dINITIAL FORMdMEDIAL FORMcFEH ISOLATED FORMdFINAL FORMdINITIAL FORMdMEDIAL FORM",
  "cQAF ISOLATED FORMdFINAL FORMdINITIAL FORMdMEDIAL FORMcKAF ISOLATED FORMdFINAL FORM",
  "dINITIAL FORMdMEDIAL FORMcLAM ISOLATED FORMdFINAL FORMdINITIAL FORMdMEDIAL FORM",
  "cMEEM ISOLATED FORMdFINAL FORMdINITIAL FORMdMEDIAL FORMcNOON ISOLATED FORMdFINAL FORM",
  "dINITIAL FORMdMEDIAL FORMcHEH ISOLATED FORMdFINAL FORMdINITIAL FORMdMEDIAL FORM",
  "cWAW ISOLATED FORMdFINAL FORMcALEF MAKSURA ISOLATED FORMeFINAL FORMcYEH ISOLATED FORM",
  "dFINAL FORMdINITIAL FORMdMEDIAL FORMbLIGATURE LAM WITH ALEF WITH MADDA ABOVE ISOLATED FORM",
  "iFINAL FORMgHAMZA ABOVE ISOLATED FORMiFINAL FORMhBELOW ISOLATED FORMiFINAL FORM",
  "fISOLATED FORMfFINAL FORM:FEFFaZERO WIDTH NO-BREAK SPACE:FF01aFULLWIDTH EXCLAMATION MARK",
  "bQUOTATION MARKbNUMBER SIGNbDOLLAR SIGNbPERCENT SIGNbAMPERSANDbAPOSTROPHEbLEFT PARENTHESIS",
  "bRIGHT PARENTHESISbASTERISKbPLUS SIGNbCOMMAbHYPHEN-MINUSbFULL STOPbSOLIDUSbDIGIT ZEROcONE",
  "cTWOcTHREEcFOURcFIVEcSIXcSEVENcEIGHTcNINEbCOLONbSEMICOLONbLESS-THAN SIGNbEQUALS SIGN",
  "bGREATER-THAN SIGNbQUESTION MARKbCOMMERCIAL ATbLATIN CAPITAL LETTER AeBeCeDeEeFeGeHeIeJeKeL",
  "eMeNeOePeQeReSeTeUeVeWeXeYeZbLEFT SQUARE BRACKETbREVERSE SOLIDUSbRIGHT SQUARE BRACKET",
  "bCIRCUMFLEX ACCENTbLOW LINEbGRAVE ACCENTbLATIN SMALL LETTER AeBeCeDeEeFeGeHeIeJeKeLeMeNeOeP",
  "eQeReSeTeUeVeWeXeYeZbLEFT CURLY BRACKETbVERTICAL LINEbRIGHT CURLY BRACKETbTILDE",
  "bLEFT WHITE PARENTHESISbRIGHT WHITE PARENTHESISaHALFWIDTH IDEOGRAPHIC FULL STOP",
  "bLEFT CORNER BRACKETbRIGHT CORNER BRACKETbIDEOGRAPHIC COMMAbKATAKANA MIDDLE DOTcLETTER WO",
  "dSMALL AeIeUeEeOeYAeYUeYOeTUbKATAKANA-HIRAGANA PROLONGED SOUND MARKbKATAKANA LETTER AdIdUdE",
  "dOdKAdKIdKUdKEdKOdSAdSIdSUdSEdSOdTAdTIdTUdTEdTOdNAdNIdNUdNEdNOdHAdHIdHUdHEdHOdMAdMIdMUdMEdMO",
  "dYAdYUdYOdRAdRIdRUdREdROdWAdNcVOICED SOUND MARKcSEMI-VOICED SOUND MARKbHANGUL FILLER",
  "cLETTER KIYEOKdSSANGKIYEOKdKIYEOK-SIOSdNIEUNdNIEUN-CIEUCdNIEUN-HIEUHdTIKEUTdSSANGTIKEUT",
  "dRIEULdRIEUL-KIYEOKdRIEUL-MIEUMdRIEUL-PIEUPdRIEUL-SIOSdRIEUL-THIEUTHdRIEUL-PHIEUPH",
  "dRIEUL-HIEUHdMIEUMdPIEUPdSSANGPIEUPdPIEUP-SIOSdSIOSdSSANGSIOSdIEUNGdCIEUCdSSANGCIEUCdCHIEUCH",
  "dKHIEUKHdTHIEUTHdPHIEUPHdHIEUH:FFC2dAdAEdYAdYAEdEOdE:FFCAdYEOdYEdOdWAdWAEdOE:FFD2dYOdUdWEO",
  "dWEdWIdYU:FFDAdEUdYIdI:FFE0aFULLWIDTH CENT SIGNbPOUND SIGNbNOT SIGNbMACRONbBROKEN BAR",
  "bYEN SIGNbWON SIGN:FFE8aHALFWIDTH FORMS LIGHT VERTICALbLEFTWARDS ARROWbUPWARDS ARROW",
  "bRIGHTWARDS ARROWbDOWNWARDS ARROWbBLACK SQUAREbWHITE CIRCLE",
  ":FFF9aINTERLINEAR ANNOTATION ANCHORcSEPARATORcTERMINATORaOBJECT REPLACEMENT CHARACTER",
  "aREPLACEMENT CHARACTER:10000aLINEAR B SYLLABLE B008 AdB038 EdB028 IdB061 OdB010 UdB001 DA",
  "dB045 DEdB007 DIdB014 DOdB051 DUdB057 JAdB046 JE:1000DdB036 JOdB065 JUdB077 KAdB044 KE",
  "dB067 KIdB070 KOdB081 KUdB080 MAdB013 MEdB073 MIdB015 MOdB023 MUdB006 NAdB024 NEdB030 NI",
  "dB052 NOdB055 NUdB003 PAdB072 PEdB039 PIdB011 POdB050 PUdB016 QAdB078 QEdB021 QIdB032 QO",
  ":10028dB060 RAdB027 REdB053 RIdB002 ROdB026 RUdB031 SAdB009 SEdB041 SIdB012 SOdB058 SU",
  "dB059 TAdB004 TEdB037 TIdB005 TOdB069 TUdB054 WAdB075 WEdB040 WIdB042 WO:1003CdB017 ZA",
  "dB074 ZE:1003FdB020 ZOdB025 A2dB043 A3dB085 AUdB071 DWEdB090 DWOdB048 NWAdB029 PU2dB062 PTE",
  "dB076 RA2dB033 RA3dB068 RO2dB066 TA2dB087 TWEdB091 TWO:10050cSYMBOL B018dB019dB022dB034dB047",
  "dB049dB056dB063dB064dB079dB082dB083dB086dB089:10080cIDEOGRAM B100 MANdB102 WOMANdB104 DEER",
  "dB105 EQUIDdB105F MAREdB105M STALLIONdB106F EWEdB106M RAMdB107F SHE-GOATdB107M HE-GOAT",
  "dB108F SOWdB108M BOARdB109F COWdB109M BULLdB120 WHEATdB121 BARLEYdB122 OLIVEdB123 SPICE",
  "dB125 CYPERUScMONOGRAM B127 KAPOdB128 KANAKOcIDEOGRAM B130 OILdB131 WINEdB132",
  "cMONOGRAM B133 AREPAdB135 MERIcIDEOGRAM B140 BRONZEdB141 GOLDdB142dB145 WOOLdB146dB150",
  "dB151 HORNdB152dB153dB154cMONOGRAM B156 TURO2cIDEOGRAM B157dB158dB159 CLOTHdB160dB161",
  "dB162 GARMENTdB163 ARMOURdB164dB165dB166dB167dB168dB169dB170dB171dB172dB173 MONTHdB174",
  "dB176 TREEdB177dB178dB179dB180dB181dB182dB183dB184dB185dB189dB190dB191 HELMETdB220 FOOTSTOOL",
  "dB225 BATHTUBdB230 SPEARdB231 ARROWdB232dB233 SWORDdB234dB236dB240 WHEELED CHARIOT",
  "dB241 CHARIOTdB242 CHARIOT FRAMEdB243 WHEELdB245dB246cMONOGRAM B247 DIPTEcIDEOGRAM B248dB249",
  "dB251dB252dB253dB254 DARTdB255dB256dB257dB258dB259dVESSEL B155eB200eB201eB202eB203eB204eB205",
  "eB206eB207eB208eB209eB210eB211eB212eB213eB214eB215eB216eB217eB218eB219eB221eB222eB226eB227",
  "eB228eB229eB250eB305:10100aAEGEAN WORD SEPARATOR LINEdDOTbCHECK MARK:10107bNUMBER ONEcTWO",
  "cTHREEcFOURcFIVEcSIXcSEVENcEIGHTcNINEcTENcTWENTYcTHIRTYcFORTYcFIFTYcSIXTYcSEVENTYcEIGHTY",
  "cNINETYcONE HUNDREDcTWO HUNDREDcTHREE HUNDREDcFOUR HUNDREDcFIVE HUNDREDcSIX HUNDRED",
  "cSEVEN HUNDREDcEIGHT HUNDREDcNINE HUNDREDcONE THOUSANDcTWO THOUSANDcTHREE THOUSAND",
  "cFOUR THOUSANDcFIVE THOUSANDcSIX THOUSANDcSEVEN THOUSANDcEIGHT THOUSANDcNINE THOUSAND",
  "cTEN THOUSANDcTWENTY THOUSANDcTHIRTY THOUSANDcFORTY THOUSANDcFIFTY THOUSANDcSIXTY THOUSAND",
  "cSEVENTY THOUSANDcEIGHTY THOUSANDcNINETY THOUSAND:10137bWEIGHT BASE UNITcFIRST SUBUNIT",
  "cSECOND SUBUNITcTHIRD SUBUNITcFOURTH SUBUNITbDRY MEASURE FIRST SUBUNIT",
  "bLIQUID MEASURE FIRST SUBUNITbMEASURE SECOND SUBUNITcTHIRD SUBUNIT",
  "aGREEK ACROPHONIC ATTIC ONE QUARTEReHALFeDRACHMAdFIVEdFIFTYdFIVE HUNDREDeTHOUSAND",
  "dFIFTY THOUSANDdFIVE TALENTSdTEN TALENTSdFIFTY TALENTSdONE HUNDRED TALENTS",
  "dFIVE HUNDRED TALENTSdONE THOUSAND TALENTSdFIVE THOUSAND TALENTSeSTATERSdTEN STATERS",
  "dFIFTY STATERSdONE HUNDRED STATERSdFIVE HUNDRED STATERSdONE THOUSAND STATERS",
  "dTEN THOUSAND STATERSdFIFTY THOUSAND STATERSdTEN MNAScHERAEUM ONE PLETHRONcTHESPIAN ONE",
  "cHERMIONIAN ONEcEPIDAUREAN TWOcTHESPIAN TWOcCYRENAIC TWO DRACHMAScEPIDAUREAN TWO DRACHMAS",
  "cTROEZENIAN FIVEdTENeALTERNATE FORMcHERMIONIAN TENcMESSENIAN TENcTHESPIAN TENdTHIRTY",
  "cTROEZENIAN FIFTYeALTERNATE FORMcHERMIONIAN FIFTYcTHESPIAN FIFTYdONE HUNDREDdTHREE HUNDRED",
  "cEPIDAUREAN FIVE HUNDREDcTROEZENIAN FIVE HUNDREDcTHESPIAN FIVE HUNDRED",
  "cCARYSTIAN FIVE HUNDREDcNAXIAN FIVE HUNDREDcTHESPIAN ONE THOUSANDdFIVE THOUSAND",
  "cDELPHIC FIVE MNAScSTRATIAN FIFTY MNASbONE HALF SIGNeALTERNATE FORMbTWO THIRDS SIGN",
  "bTHREE QUARTERS SIGNbYEAR SIGNbTALENT SIGNbDRACHMA SIGNbOBOL SIGNbTWO OBOLS SIGN",
  "bTHREE OBOLS SIGNbFOUR OBOLS SIGNbFIVE OBOLS SIGNbMETRETES SIGNbKYATHOS BASE SIGNbLITRA SIGN",
  "bOUNKIA SIGNbXESTES SIGNbARTABE SIGNbAROURA SIGNbGRAMMA SIGNbTRYBLION BASE SIGNbZERO SIGN",
  "bONE QUARTER SIGNbSINUSOID SIGNbINDICTION SIGNaNOMISMA SIGN:10190aROMAN SEXTANS SIGN",
  "bUNCIA SIGNbSEMUNCIA SIGNbSEXTULA SIGNbDIMIDIA SEXTULA SIGNbSILIQUA SIGNbDENARIUS SIGN",
  "bQUINARIUS SIGNbSESTERTIUS SIGNbDUPONDIUS SIGNbAS SIGNbCENTURIAL SIGNaASCIA SYMBOL",
  ":101A0aGREEK SYMBOL TAU RHO:101D0aPHAISTOS DISC SIGN PEDESTRIANdPLUMED HEADdTATTOOED HEAD",
  "dCAPTIVEdCHILDdWOMANdHELMETdGAUNTLETdTIARAdARROWdBOWdSHIELDdCLUBdMANACLESdMATTOCKdSAWdLID",
  "dBOOMERANGdCARPENTRY PLANEdDOLIUMdCOMBdSLINGdCOLUMNdBEEHIVEdSHIPdHORNdHIDEdBULLS LEGdCATdRAM",
  "dEAGLEdDOVEdTUNNYdBEEdPLANE TREEdVINEdPAPYRUSdROSETTEdLILYdOX BACKdFLUTEdGRATERdSTRAINER",
  "dSMALL AXEdWAVY BANDdCOMBINING OBLIQUE STROKE:10280aLYCIAN LETTER AcEcBcBHcGcDcIcWcZcTHcJcK",
  "cQcLcMcNcMMcNNcUcPcKKcRcScTcTTcANcENcHcX:102A0aCARIAN LETTER AcP2cDcLcUUUcRcLDcA2cQcBcMcOcD2",
  "cTcSHcSH2cScC-18cUcNNcXcNcTT2cPcSScIcEcUUUUcKcK2cNDcUUcGcG2cSTcST2cNGcIIcC-39cTTcUUU2cRRcMB",
  "cMB2cMB3cMB4cLD2cE2cUUU3:102E0aCOPTIC EPACT THOUSANDS MARKcDIGIT ONEdTWOdTHREEdFOURdFIVEdSIX",
  "dSEVENdEIGHTdNINEcNUMBER TENdTWENTYdTHIRTYdFORTYdFIFTYdSIXTYdSEVENTYdEIGHTYdNINETY",
  "dONE HUNDREDdTWO HUNDREDdTHREE HUNDREDdFOUR HUNDREDdFIVE HUNDREDdSIX HUNDREDdSEVEN HUNDRED",
  "dEIGHT HUNDREDdNINE HUNDRED:10300aOLD ITALIC LETTER AdBEdKEdDEdEdVEdZEdHEdTHEdIdKAdELdEMdEN",
  "dESHdOdPEdSHEdKUdERdESdTEdUdEKSdPHEdKHEdEFdERSdCHEdIIdUUdESScNUMERAL ONEdFIVEdTENdFIFTY",
  ":1032DcLETTER YEdNORTHERN TSEdSOUTHERN TSEaGOTHIC LETTER AHSAcBAIRKANcGIBAcDAGScAIHVUS",
  "cQAIRTHRAcIUJAcHAGLcTHIUTHcEIScKUSMAcLAGUScMANNAcNAUTHScJERcURUScPAIRTHRAcNINETYcRAIDAcSAUIL",
  "cTEIWScWINJAcFAIHUcIGGWScHWAIRcOTHALcNINE HUNDRED:10350aOLD PERMIC LETTER ANdBURdGAIdDOIdE",
  "dZHOIdDZHOIdZATAdDZITAdIdKOKEdLEIdMENOEdNENOEdVOOIdPEEIdREIdSIIdTAIdUdCHERYdSHOOIdSHCHOOI",
  "dYRYdYERUdOdOOdEFdHAdTSIUdVERdYERdYERIdYATdIEdYUdYAdIAaCOMBINING OLD PERMIC LETTER ANeDOI",
  "eZATAeNENOEeSII:10380aUGARITIC LETTER ALPAcBETAcGAMLAcKHAcDELTAcHOcWOcZETAcHOTAcTETcYODcKAF",
  "cSHINcLAMDAcMEMcDHALcNUNcZUcSAMKAcAINcPUcSADEcQOPAcRASHAcTHANNAcGHAINcTOcIcUcSSU",
  ":1039FbWORD DIVIDERaOLD PERSIAN SIGN AdIdUdKAdKUdGAdGUdXAdCAdJAdJIdTAdTUdDAdDIdDUdTHAdPAdBA",
  "dFAdNAdNUdMAdMIdMUdYAdVAdVIdRAdRUdLAdSAdZAdSHAdSSAdHA:103C8dAURAMAZDAAdAURAMAZDAA-2",
  "dAURAMAZDAAHAdXSHAAYATHIYAdDAHYAAUSHdDAHYAAUSH-2dBAGAdBUUMISHcWORD DIVIDERcNUMBER ONEdTWO",
  "dTENdTWENTYdHUNDRED:10400aDESERET CAPITAL LETTER LONG IeEeAeAHeOeOOdSHORT IeEeAeAHeOeOOdAY",
  "dOWdWUdYEEdHdPEEdBEEdTEEdDEEdCHEEdJEEdKAYdGAYdEFdVEEdETHdTHEEdESdZEEdESHdZHEEdERdELdEMdEN",
  "dENGdOIdEWbSMALL LETTER LONG IeEeAeAHeOeOOdSHORT IeEeAeAHeOeOOdAYdOWdWUdYEEdHdPEEdBEEdTEE",
  "dDEEdCHEEdJEEdKAYdGAYdEFdVEEdETHdTHEEdESdZEEdESHdZHEEdERdELdEMdENdENGdOIdEW",
  "aSHAVIAN LETTER PEEPcTOTcKICKcFEEcTHIGHcSOcSUREcCHURCHcYEAcHUNGcBIBcDEADcGAGcVOWcTHEYcZOO",
  "cMEASUREcJUDGEcWOEcHA-HAcLOLLcMIMEcIFcEGGcASHcADOcONcWOOLcOUTcAHcROARcNUNcEATcAGEcICEcUPcOAK",
  "cOOZEcOILcAWEcAREcORcAIRcERRcARRAYcEARcIANcYEWaOSMANYA LETTER ALEFcBAcTAcJAcXAcKHAcDEELcRA",
  "cSAcSHIINcDHAcCAYNcGAcFAcQAAFcKAAFcLAANcMIINcNUUNcWAWcHAcYAcAcEcIcOcUcAAcEEcOO",
  ":104A0bDIGIT ZEROcONEcTWOcTHREEcFOURcFIVEcSIXcSEVENcEIGHTcNINE:104B0aOSAGE CAPITAL LETTER A",
  "dAIdAINdAHdBRAdCHAdEHCHAdEdEINdHAdHYAdIdKAdEHKAdKYAdLAdMAdNAdOdOINdPAdEHPAdSAdSHAdTAdEHTA",
  "dTSAdEHTSAdTSHAdDHAdUdWAdKHAdGHAdZAdZHA:104D8bSMALL LETTER AdAIdAINdAHdBRAdCHAdEHCHAdEdEIN",
  "dHAdHYAdIdKAdEHKAdKYAdLAdMAdNAdOdOINdPAdEHPAdSAdSHAdTAdEHTAdTSAdEHTSAdTSHAdDHAdUdWAdKHAdGHA",
  "dZAdZHA:10500aELBASAN LETTER AcBEcCEcCHEcDEcNDEcDHEcEIcEcFEcGEcGJEcHEcIcJEcKEcLEcLLEcMEcNE",
  "cNAcNJEcOcPEcQEcREcRREcSEcSHEcTEcTHEcUcVEcXEcYcZEcZHEcGHEcGHAMMAcKHE",
  ":10530aCAUCASIAN ALBANIAN LETTER ALTdBETdGIMdDATdEBdZARLdEYNdZHILdTASdCHAdYOWDdZHAdIRBdSHA",
  "dLANdINYAdXEYNdDYANdCARdJHOXdKARdLYITdHEYTdQAYdAORdCHOYdCHIdCYAYdMAQdQARdNOWCdDZYAYdSHAK",
  "dJAYNdONdTYAYdFAMdDZAYdCHATdPENdGHEYSdRATdSEYKdVEYZdTIWRdSHOYdIWNdCYAWdCAYNdYAYDdPIWRdKIW",
  ":1056FcCITATION MARKaVITHKUQI CAPITAL LETTER AdBBEdBEdCEdCHEdDEdDHEdEIdEdFEdGA:1057CdHAdHHA",
  "dIdIJEdJEdKAdLAdLLAdMEdNEdNJEdOdPEdQAdRE:1058CdSEdSHEdTEdTHEdUdVEdXE:10594dYdZE",
  ":10597bSMALL LETTER AdBBEdBEdCEdCHEdDEdDHEdEIdEdFEdGA:105A3dHAdHHAdIdIJEdJEdKAdLAdLLAdMEdNE",
  "dNJEdOdPEdQAdRE:105B3dSEdSHEdTEdTHEdUdVEdXE:105BBdYdZE:10600aLINEAR A SIGN AB001dAB002dAB003",
  "dAB004dAB005dAB006dAB007dAB008dAB009dAB010dAB011dAB013dAB016dAB017dAB020dAB021dAB021FdAB021M",
  "dAB022dAB022FdAB022MdAB023dAB023MdAB024dAB026dAB027dAB028dA028BdAB029dAB030dAB031dAB034",
  "dAB037dAB038dAB039dAB040dAB041dAB044dAB045dAB046dAB047dAB048dAB049dAB050dAB051dAB053dAB054",
  "dAB055dAB056dAB057dAB058dAB059dAB060dAB061dAB065dAB066dAB067dAB069dAB070dAB073dAB074dAB076",
  "dAB077dAB078dAB079dAB080dAB081dAB082dAB085dAB086dAB087dA100-102dAB118dAB120dA120BdAB122",
  "dAB123dAB131AdAB131BdA131CdAB164dAB171dAB180dAB188dAB191dA301dA302dA303dA304dA305dA306dA307",
  "dA308dA309AdA309BdA309CdA310dA311dA312dA313AdA313BdA313CdA314dA315dA316dA317dA318dA319dA320",
  "dA321dA322dA323dA324dA325dA326dA327dA328dA329dA330dA331dA332dA333dA334dA335dA336dA337dA338",
  "dA339dA340dA341dA342dA343dA344dA345dA346dA347dA348dA349dA350dA351dA352dA353dA354dA355dA356",
  "dA357dA358dA359dA360dA361dA362dA363dA364dA365dA366dA367dA368dA369dA370dA371dA400-VAS",
  "dA401-VASdA402-VASdA403-VASdA404-VASdA405-VASdA406-VASdA407-VASdA408-VASdA409-VASdA410-VAS",
  "dA411-VASdA412-VASdA413-VASdA414-VASdA415-VASdA416-VASdA417-VASdA418-VASdA501dA502dA503dA504",
  "dA505dA506dA508dA509dA510dA511dA512dA513dA515dA516dA520dA521dA523dA524dA525dA526dA527dA528",
  "dA529dA530dA531dA532dA534dA535dA536dA537dA538dA539dA540dA541dA542dA545dA547dA548dA549dA550",
  "dA551dA552dA553dA554dA555dA556dA557dA559dA563dA564dA565dA566dA568dA569dA570dA571dA572dA573",
  "dA574dA575dA576dA577dA578dA579dA580dA581dA582dA583dA584dA585dA586dA587dA588dA589dA591dA592",
  "dA594dA595dA596dA598dA600dA601dA602dA603dA604dA606dA608dA609dA610dA611dA612dA613dA614dA615",
  "dA616dA617dA618dA619dA620dA621dA622dA623dA624dA626dA627dA628dA629dA634dA637dA638dA640dA642",
  "dA643dA644dA645dA646dA648dA649dA651dA652dA653dA654dA655dA656dA657dA658dA659dA660dA661dA662",
  "dA663dA664:10740dA701 AdA702 BdA703 DdA704 EdA705 FdA706 HdA707 JdA708 KdA709 LdA709-2 L2",
  "dA709-3 L3dA709-4 L4dA709-6 L6dA710 WdA711 XdA712 YdA713 OMEGAdA714 ABBdA715 BBdA717 DD",
  "dA726 EYYYdA732 JE:10760dA800dA801dA802dA803dA804dA805dA806dA807",
  ":10780aMODIFIER LETTER SMALL CAPITAL AAcSUPERSCRIPT TRIANGULAR COLONdHALF TRIANGULAR COLON",
  "cSMALL AEdCAPITAL BdB WITH HOOK:10787dDZ DIGRAPHfWITH RETROFLEX HOOKgCURLdDEZH DIGRAPH",
  "dD WITH TAILfHOOKgAND TAILdREVERSED EdCLOSED REVERSED OPEN EdFENG DIGRAPHdRAMS HORN",
  "dCAPITAL GdG WITH HOOKdCAPITAL G WITH HOOKdH WITH STROKEdCAPITAL HdHENG WITH HOOK",
  "dDOTLESS J WITH STROKE AND HOOKdLS DIGRAPHdLZ DIGRAPHdL WITH BELTdCAPITAL L WITH BELT",
  "dL WITH RETROFLEX HOOK AND BELTdLEZHeWITH RETROFLEX HOOKdTURNED YfWITH BELTdO WITH STROKE",
  "dCAPITAL OEdCLOSED OMEGAdQdTURNED R WITH LONG LEGiAND RETROFLEX HOOKdR WITH TAILfFISHHOOK",
  "dCAPITAL RdTC DIGRAPH WITH CURLdTS DIGRAPHfWITH RETROFLEX HOOKdTESH DIGRAPH",
  "dT WITH RETROFLEX HOOKdV WITH RIGHT HOOK:107B2dCAPITAL YcGLOTTAL STOP WITH STROKE",
  "cREVERSED GLOTTAL STOP WITH STROKEcBILABIAL CLICKcDENTAL CLICKcLATERAL CLICKcALVEOLAR CLICK",
  "cRETROFLEX CLICK WITH RETROFLEX HOOKcSMALL S WITH CURL:10800aCYPRIOT SYLLABLE AcEcIcOcUcJA",
  ":10808cJO:1080AcKAcKEcKIcKOcKUcLAcLEcLIcLOcLUcMAcMEcMIcMOcMUcNAcNEcNIcNOcNUcPAcPEcPIcPOcPU",
  "cRAcREcRIcROcRUcSAcSEcSIcSOcSUcTAcTEcTIcTOcTUcWAcWEcWIcWO:10837cXAcXE:1083CcZA:1083FcZO",
  "aIMPERIAL ARAMAIC LETTER ALEPHdBETHdGIMELdDALETHdHEdWAWdZAYINdHETHdTETHdYODHdKAPHdLAMEDHdMEM",
  "dNUNdSAMEKHdAYINdPEdSADHEdQOPHdRESHdSHINdTAW:10857cSECTION SIGNcNUMBER ONEdTWOdTHREEdTEN",
  "dTWENTYdONE HUNDREDeTHOUSANDdTEN THOUSANDaPALMYRENE LETTER ALEPHcBETHcGIMELcDALETHcHEcWAW",
  "cZAYINcHETHcTETHcYODHcKAPHcLAMEDHcMEMcFINAL NUNcNUNcSAMEKHcAYINcPEcSADHEcQOPHcRESHcSHINcTAW",
  "bLEFT-POINTING FLEURONbRIGHT-POINTING FLEURONbNUMBER ONEcTWOcTHREEcFOURcFIVEcTENcTWENTY",
  "aNABATAEAN LETTER FINAL ALEPHcALEPHcFINAL BETHcBETHcGIMELcDALETHcFINAL HEcHEcWAWcZAYINcHETH",
  "cTETHcFINAL YODHcYODHcFINAL KAPHcKAPHcFINAL LAMEDHcLAMEDHcFINAL MEMcMEMcFINAL NUNcNUNcSAMEKH",
  "cAYINcPEcSADHEcQOPHcRESHcFINAL SHINcSHINcTAW:108A7bNUMBER ONEcTWOcTHREEcFOUR",
  "bCRUCIFORM NUMBER FOURbNUMBER FIVEcTENcTWENTYcONE HUNDRED:108E0aHATRAN LETTER ALEPHcBETH",
  "cGIMELcDALETH-RESHcHEcWAWcZAYNcHETHcTETHcYODHcKAPHcLAMEDHcMEMcNUNcSAMEKHcAYNcPEcSADHEcQOPH",
  ":108F4cSHINcTAW:108FBbNUMBER ONEcFIVEcTENcTWENTYcONE HUNDREDaPHOENICIAN LETTER ALFcBETcGAML",
  "cDELTcHEcWAUcZAIcHETcTETcYODcKAFcLAMDcMEMcNUNcSEMKcAINcPEcSADEcQOFcROSHcSHINcTAUbNUMBER ONE",
  "cTENcTWENTYcONE HUNDREDcTWOcTHREE:1091FbWORD SEPARATORaLYDIAN LETTER AcBcGcDcEcVcIcYcKcLcMcN",
  "cOcRcSScTcUcFcQcScTTcANcENcLYcNNcC:1093FbTRIANGULAR MARK",
  ":10980aMEROITIC HIEROGLYPHIC LETTER AdEdIdOdYAdWAdBAdBA-2dPAdMAdNAdNA-2dNEdNE-2dRAdRA-2dLA",
  "dKHAdHHAdSAdSA-2dSEdKAdQAdTAdTA-2dTEdTE-2dTOdDAcSYMBOL VIDJdVIDJ-2bCURSIVE LETTER AdEdIdOdYA",
  "dWAdBAdPAdMAdNAdNEdRAdLAdKHAdHHAdSAdARCHAIC SAdSEdKAdQAdTAdTEdTOdDA",
  ":109BCcFRACTION ELEVEN TWELFTHSdONE HALFcLOGOGRAM RMTdIMNcNUMBER ONEdTWOdTHREEdFOURdFIVEdSIX",
  "dSEVENdEIGHTdNINEdTENdTWENTYdTHIRTYdFORTYdFIFTYdSIXTYdSEVENTY:109D2dONE HUNDREDdTWO HUNDRED",
  "dTHREE HUNDREDdFOUR HUNDREDdFIVE HUNDREDdSIX HUNDREDdSEVEN HUNDREDdEIGHT HUNDRED",
  "dNINE HUNDREDdONE THOUSANDdTWO THOUSANDdTHREE THOUSANDdFOUR THOUSANDdFIVE THOUSAND",
  "dSIX THOUSANDdSEVEN THOUSANDdEIGHT THOUSANDdNINE THOUSANDdTEN THOUSANDdTWENTY THOUSAND",
  "dTHIRTY THOUSANDdFORTY THOUSANDdFIFTY THOUSANDdSIXTY THOUSANDdSEVENTY THOUSAND",
  "dEIGHTY THOUSANDdNINETY THOUSANDdONE HUNDRED THOUSANDdTWO HUNDRED THOUSAND",
  "dTHREE HUNDRED THOUSANDdFOUR HUNDRED THOUSANDdFIVE HUNDRED THOUSANDdSIX HUNDRED THOUSAND",
  "dSEVEN HUNDRED THOUSANDdEIGHT HUNDRED THOUSANDdNINE HUNDRED THOUSANDcFRACTION ONE TWELFTH",
  "dTWO TWELFTHSdTHREE TWELFTHSdFOUR TWELFTHSdFIVE TWELFTHSdSIX TWELFTHSdSEVEN TWELFTHS",
  "dEIGHT TWELFTHSdNINE TWELFTHSdTEN TWELFTHSaKHAROSHTHI LETTER AbVOWEL SIGN IdUdVOCALIC R",
  ":10A05dEdO:10A0CcLENGTH MARKbSIGN DOUBLE RING BELOWcANUSVARAcVISARGAbLETTER KAcKHAcGAcGHA",
  ":10A15cCAcCHAcJA:10A19cNYAcTTAcTTHAcDDAcDDHAcNNAcTAcTHAcDAcDHAcNAcPAcPHAcBAcBHAcMAcYAcRAcLA",
  "cVAcSHAcSSAcSAcZAcHAcKKAcTTTHAcTTTAcVHA:10A38bSIGN BAR ABOVEcCAUDAcDOT BELOW:10A3FbVIRAMA",
  "bDIGIT ONEcTWOcTHREEcFOURbNUMBER TENcTWENTYcONE HUNDREDdTHOUSANDbFRACTION ONE HALF",
  ":10A50bPUNCTUATION DOTcSMALL CIRCLEcCIRCLEcCRESCENT BARcMANGALAMcLOTUScDANDAcDOUBLE DANDA",
  "cLINES:10A60aOLD SOUTH ARABIAN LETTER HEeLAMEDHeHETHeMEMeQOPHeWAWeSHINeRESHeBETHeTAWeSAT",
  "eKAPHeNUNeKHETHeSADHEeSAMEKHeFEeALEFeAYNeDHADHEeGIMELeDALETHeGHAYNeTETHeZAYNeDHALETHeYODH",
  "eTHAWeTHETHdNUMBER ONEeFIFTYdNUMERIC INDICATORbNORTH ARABIAN LETTER HEHeLAMeHAHeMEEMeQAFeWAW",
  "eES-2eREHeBEHeTEHeES-1eKAFeNOONeKHAHeSADeES-3eFEHeALEFeAINeDADeGEEMeDALeGHAINeTAHeZAINeTHAL",
  "eYEHeTHEHeZAHdNUMBER ONEeTENeTWENTY:10AC0aMANICHAEAN LETTER ALEPHcBETHcBHETHcGIMELcGHIMEL",
  "cDALETHcHEcWAWbSIGN UDbLETTER ZAYINcZHAYINcJAYINcJHAYINcHETHcTETHcYODHcKAPHcXAPHcKHAPH",
  "cLAMEDHcDHAMEDHcTHAMEDHcMEMcNUNcSAMEKHcAYINcAAYINcPEcFEcSADHEcQOPHcXOPHcQHOPHcRESHcSHIN",
  "cSSHINcTAWbABBREVIATION MARK ABOVEdBELOW:10AEBbNUMBER ONEcFIVEcTENcTWENTYcONE HUNDRED",
  "bPUNCTUATION STARcFLEURONcDOUBLE DOT WITHIN DOTcDOT WITHIN DOTcDOTcTWO DOTScLINE FILLER",
  ":10B00aAVESTAN LETTER AcAAcAOcAAOcANcAANcAEcAEEcEcEEcOcOOcIcIIcUcUUcKEcXEcXYEcXVEcGEcGGEcGHE",
  "cCEcJEcTEcTHEcDEcDHEcTTEcPEcFEcBEcBHEcNGEcNGYEcNGVEcNEcNYEcNNEcMEcHMEcYYEcYEcVEcREcLEcSEcZE",
  "cSHEcZHEcSHYEcSSHEcHE:10B39bABBREVIATION MARKaTINY TWO DOTS OVER ONE DOT PUNCTUATION",
  "aSMALL TWO DOTS OVER ONE DOT PUNCTUATIONaLARGE TWO DOTS OVER ONE DOT PUNCTUATION",
  "bONE DOT OVER TWO DOTS PUNCTUATIONbTWO RINGS OVER ONE RING PUNCTUATION",
  "bONE RING OVER TWO RINGS PUNCTUATIONaINSCRIPTIONAL PARTHIAN LETTER ALEPHdBETHdGIMELdDALETH",
  "dHEdWAWdZAYINdHETHdTETHdYODHdKAPHdLAMEDHdMEMdNUNdSAMEKHdAYINdPEdSADHEdQOPHdRESHdSHINdTAW",
  ":10B58cNUMBER ONEdTWOdTHREEdFOURdTENdTWENTYdONE HUNDREDeTHOUSANDbPAHLAVI LETTER ALEPHdBETH",
  "dGIMELdDALETHdHEdWAW-AYIN-RESHdZAYINdHETHdTETHdYODHdKAPHdLAMEDHdMEM-QOPHdNUNdSAMEKHdPEdSADHE",
  "dSHINdTAW:10B78cNUMBER ONEdTWOdTHREEdFOURdTENdTWENTYdONE HUNDREDeTHOUSAND",
  "aPSALTER PAHLAVI LETTER ALEPHdBETHdGIMELdDALETHdHEdWAW-AYIN-RESHdZAYINdHETHdYODHdKAPHdLAMEDH",
  "dMEM-QOPHdNUNdSAMEKHdPEdSADHEdSHINdTAW:10B99cSECTION MARKcTURNED SECTION MARK",
  "cFOUR DOTS WITH CROSSfDOT:10BA9cNUMBER ONEdTWOdTHREEdFOURdTENdTWENTYdONE HUNDRED",
  ":10C00aOLD TURKIC LETTER ORKHON AdYENISEI AeAEdORKHON IdYENISEI IeEdORKHON OeOEdYENISEI OE",
  "dORKHON ABdYENISEI ABdORKHON AEBdYENISEI AEBdORKHON AGdYENISEI AGdORKHON AEGdYENISEI AEG",
  "dORKHON ADdYENISEI ADdORKHON AEDeEZdYENISEI EZdORKHON AYdYENISEI AYdORKHON AEYdYENISEI AEY",
  "dORKHON AEKdYENISEI AEKdORKHON OEKdYENISEI OEKdORKHON ALdYENISEI ALdORKHON AELeELTeEMeANeAEN",
  "dYENISEI AENdORKHON ENTdYENISEI ENTdORKHON ENCdYENISEI ENCdORKHON ENYdYENISEI ENYeANG",
  "dORKHON ENGdYENISEI AENGdORKHON EPeOPeICeECdYENISEI ECdORKHON AQdYENISEI AQdORKHON IQ",
  "dYENISEI IQdORKHON OQdYENISEI OQdORKHON ARdYENISEI ARdORKHON AEReASeAESeASHdYENISEI ASH",
  "dORKHON ESHdYENISEI ESHdORKHON ATdYENISEI ATdORKHON AETdYENISEI AETdORKHON OTeBASH",
  ":10C80bHUNGARIAN CAPITAL LETTER AeAAeEBeAMBeECeENCeECSeEDeANDeEeCLOSE EeEEeEFeEGeEGYeEHeIeII",
  "eEJeEKeAKeUNKeELeELYeEMeENeENYeOeOOeNIKOLSBURG OEeRUDIMENTA OEeOEEeEPeEMPeEReSHORT EReESeESZ",
  "eETeENTeETYeECHeUeUUeNIKOLSBURG UEeRUDIMENTA UEeEVeEZeEZSeENT-SHAPED SIGNeUS",
  ":10CC0cSMALL LETTER AeAAeEBeAMBeECeENCeECSeEDeANDeEeCLOSE EeEEeEFeEGeEGYeEHeIeIIeEJeEKeAK",
  "eUNKeELeELYeEMeENeENYeOeOOeNIKOLSBURG OEeRUDIMENTA OEeOEEeEPeEMPeEReSHORT EReESeESZeETeENT",
  "eETYeECHeUeUUeNIKOLSBURG UEeRUDIMENTA UEeEVeEZeEZSeENT-SHAPED SIGNeUS:10CFAcNUMBER ONEdFIVE",
  "dTENdFIFTYdONE HUNDREDeTHOUSANDaHANIFI ROHINGYA LETTER AdBAdPAdTAdTTAdJAdCAdHAdKHAdFAdDAdDDA",
  "dRAdRRAdZAdSAdSHAdKAdGAdLAdMAdNAdWAdKINNA WAdYAdKINNA YAdNGAdNYAdVAcVOWEL AdIdUdEdO",
  "cMARK SAKINdNA KHONNAcSIGN HARBAHAYdTAHALAdTANAdTASSI:10D30cDIGIT ZEROdONEdTWOdTHREEdFOUR",
  "dFIVEdSIXdSEVENdEIGHTdNINE:10E60aRUMI DIGIT ONEcTWOcTHREEcFOURcFIVEcSIXcSEVENcEIGHTcNINE",
  "bNUMBER TENcTWENTYcTHIRTYcFORTYcFIFTYcSIXTYcSEVENTYcEIGHTYcNINETYcONE HUNDREDcTWO HUNDRED",
  "cTHREE HUNDREDcFOUR HUNDREDcFIVE HUNDREDcSIX HUNDREDcSEVEN HUNDREDcEIGHT HUNDRED",
  "cNINE HUNDREDbFRACTION ONE HALFdQUARTERdTHIRDcTWO THIRDS:10E80aYEZIDI LETTER ELIFcBEcPEcPHE",
  "cTHEcSEcCIMcCHIMcCHHIMcHHAcXAcDALcZALcRAcRHAcZAcJAcSINcSHINcSADcDADcTAcZEcEYNcXHEYNcFAcVA",
  "dALTERNATE FORMcQAFcKAFcKHAFcGAFcLAMcMIMcNUNcUMcWAWcOWcEWcHAYcYOTcET",
  ":10EABbCOMBINING HAMZA MARKcMADDA MARKbHYPHENATION MARK:10EB0bLETTER LAM WITH DOT ABOVE",
  "cYOT WITH CIRCUMFLEX ABOVE:10F00aOLD SOGDIAN LETTER ALEPHdFINAL ALEPHdBETHdFINAL BETHdGIMEL",
  "dHEdFINAL HEdWAWdZAYINdHETHdYODHdKAPHdLAMEDHdMEMdNUNdFINAL NUNfWITH VERTICAL TAILdSAMEKH",
  "dAYINdALTERNATE AYINdPEdSADHEdFINAL SADHEfWITH VERTICAL TAILdRESH-AYIN-DALETHdSHINdTAW",
  "dFINAL TAWfWITH VERTICAL TAILcNUMBER ONEdTWOdTHREEdFOURdFIVEdTENdTWENTYdTHIRTYdONE HUNDRED",
  "cFRACTION ONE HALFcLIGATURE AYIN-DALETH:10F30aSOGDIAN LETTER ALEPHcBETHcGIMELcHEcWAWcZAYIN",
  "cHETHcYODHcKAPHcLAMEDHcMEMcNUNcSAMEKHcAYINcPEcSADHEcRESH-AYINcSHINcTAWcFETHcLESH",
  "bINDEPENDENT SHINbCOMBINING DOT BELOWcTWO DOTS BELOWcDOT ABOVEcTWO DOTS ABOVEcCURVE ABOVE",
  "dBELOWcHOOK ABOVEdBELOWcLONG HOOK BELOWcRESH BELOWcSTROKE BELOWbNUMBER ONEcTENcTWENTY",
  "cONE HUNDREDbPUNCTUATION TWO VERTICAL BARSfWITH DOTScCIRCLE WITH DOTcTWO CIRCLES WITH DOTS",
  "cHALF CIRCLE WITH DOT:10F70aOLD UYGHUR LETTER ALEPHdBETHdGIMEL-HETHdWAWdZAYINdFINAL HETH",
  "dYODHdKAPHdLAMEDHdMEMdNUNdSAMEKHdPEdSADHEdRESHdSHINdTAWdLESHcCOMBINING DOT ABOVEeBELOW",
  "dTWO DOTS ABOVEfBELOWcPUNCTUATION BARdTWO BARSeDOTSdFOUR DOTS:10FB0aCHORASMIAN LETTER ALEPH",
  "cSMALL ALEPHcBETHcGIMELcDALETHcHEcWAWcCURLED WAWcZAYINcHETHcYODHcKAPH"]

/-- The names of characters from U+10FBC to U+145D5. -/
def namesFrom10FBC : List String := [
  ":10FBCaCHORASMIAN LETTER LAMEDHcMEMcNUNcSAMEKHcAYINcPEcRESHcSHINcTAWbNUMBER ONEcTWOcTHREE",
  "cFOURcTENcTWENTYcONE HUNDRED:10FE0aELYMAIC LETTER ALEPHcBETHcGIMELcDALETHcHEcWAWcZAYINcHETH",
  "cTETHcYODHcKAPHcLAMEDHcMEMcNUNcSAMEKHcAYINcPEcSADHEcQOPHcRESHcSHINcTAWbLIGATURE ZAYIN-YODH",
  ":11000aBRAHMI SIGN CANDRABINDUcANUSVARAcVISARGAcJIHVAMULIYAcUPADHMANIYAbLETTER AcAAcIcIIcU",
  "cUUcVOCALIC RdRRdLdLLcEcAIcOcAUcKAcKHAcGAcGHAcNGAcCAcCHAcJAcJHAcNYAcTTAcTTHAcDDAcDDHAcNNAcTA",
  "cTHAcDAcDHAcNAcPAcPHAcBAcBHAcMAcYAcRAcLAcVAcSHAcSSAcSAcHAcLLAcOLD TAMIL LLLAeRRAeNNNA",
  "bVOWEL SIGN AAdBHATTIPROLU AAdIdIIdUdUUdVOCALIC ReRReLeLLdEdAIdOdAUbVIRAMAbDANDA",
  "bDOUBLE DANDAbPUNCTUATION DOTcDOUBLE DOTcLINEcCRESCENT BARcLOTUS:11052bNUMBER ONEcTWOcTHREE",
  "cFOURcFIVEcSIXcSEVENcEIGHTcNINEcTENcTWENTYcTHIRTYcFORTYcFIFTYcSIXTYcSEVENTYcEIGHTYcNINETY",
  "cONE HUNDREDdTHOUSANDbDIGIT ZEROcONEcTWOcTHREEcFOURcFIVEcSIXcSEVENcEIGHTcNINE",
  "bSIGN OLD TAMIL VIRAMAbLETTER OLD TAMIL SHORT EfObVOWEL SIGN OLD TAMIL SHORT EgO",
  "bLETTER OLD TAMIL LLA:1107FbNUMBER JOINERaKAITHI SIGN CANDRABINDUcANUSVARAcVISARGAbLETTER A",
  "cAAcIcIIcUcUUcEcAIcOcAUcKAcKHAcGAcGHAcNGAcCAcCHAcJAcJHAcNYAcTTAcTTHAcDDAcDDDHAcDDHAcRHAcNNA",
  "cTAcTHAcDAcDHAcNAcPAcPHAcBAcBHAcMAcYAcRAcLAcVAcSHAcSSAcSAcHAbVOWEL SIGN AAdIdIIdUdUUdEdAIdO",
  "dAUbSIGN VIRAMAcNUKTAbABBREVIATION SIGNbENUMERATION SIGNbNUMBER SIGNbSECTION MARK",
  "bDOUBLE SECTION MARKbDANDAbDOUBLE DANDAbVOWEL SIGN VOCALIC R:110CDbNUMBER SIGN ABOVE",
  ":110D0aSORA SOMPENG LETTER SAHdTAHdBAHdCAHdDAHdGAHdMAHdNGAHdLAHdNAHdVAHdPAHdYAHdRAHdHAHdKAH",
  "dJAHdNYAHdAHdEEHdIHdUHdOHdEHdMAE:110F0cDIGIT ZEROdONEdTWOdTHREEdFOURdFIVEdSIXdSEVENdEIGHT",
  "dNINE:11100aCHAKMA SIGN CANDRABINDUcANUSVARAcVISARGAbLETTER AAcIcUcEcKAAcKHAAcGAAcGHAAcNGAA",
  "cCAAcCHAAcJAAcJHAAcNYAAcTTAAcTTHAAcDDAAcDDHAAcNNAAcTAAcTHAAcDAAcDHAAcNAAcPAAcPHAAcBAAcBHAA",
  "cMAAcYYAAcYAAcRAAcLAAcWAAcSAAcHAAbVOWEL SIGN AdIdIIdUdUUdEdAIdOdAUdOIbO MARKbAU MARKbVIRAMA",
  "bMAAYYAA:11136bDIGIT ZEROcONEcTWOcTHREEcFOURcFIVEcSIXcSEVENcEIGHTcNINEbSECTION MARKbDANDA",
  "bDOUBLE DANDAbQUESTION MARKbLETTER LHAAbVOWEL SIGN AAdEIbLETTER VAA:11150aMAHAJANI LETTER A",
  "cIcUcEcOcKAcKHAcGAcGHAcCAcCHAcJAcJHAcNYAcTTAcTTHAcDDAcDDHAcNNAcTAcTHAcDAcDHAcNAcPAcPHAcBA",
  "cBHAcMAcRAcLAcVAcSAcHAcRRAbSIGN NUKTAbABBREVIATION SIGNbSECTION MARKbLIGATURE SHRI",
  ":11180aSHARADA SIGN CANDRABINDUcANUSVARAcVISARGAbLETTER AcAAcIcIIcUcUUcVOCALIC RdRRdLdLLcE",
  "cAIcOcAUcKAcKHAcGAcGHAcNGAcCAcCHAcJAcJHAcNYAcTTAcTTHAcDDAcDDHAcNNAcTAcTHAcDAcDHAcNAcPAcPHA",
  "cBAcBHAcMAcYAcRAcLAcLLAcVAcSHAcSSAcSAcHAbVOWEL SIGN AAdIdIIdUdUUdVOCALIC ReRReLeLLdEdAIdOdAU",
  "bSIGN VIRAMAcAVAGRAHAcJIHVAMULIYAcUPADHMANIYAbOMbDANDAbDOUBLE DANDAbABBREVIATION SIGN",
  "bSEPARATORbSANDHI MARKbSIGN NUKTAbVOWEL MODIFIER MARKbEXTRA SHORT VOWEL MARKbSUTRA MARK",
  "bVOWEL SIGN PRISHTHAMATRA EbSIGN INVERTED CANDRABINDUbDIGIT ZEROcONEcTWOcTHREEcFOURcFIVEcSIX",
  "cSEVENcEIGHTcNINEbEKAMbSIGN SIDDHAMbHEADSTROKEbCONTINUATION SIGNbSECTION MARK-1cMARK-2",
  ":111E1aSINHALA ARCHAIC DIGIT ONEdTWOdTHREEdFOURdFIVEdSIXdSEVENdEIGHTdNINEcNUMBER TENdTWENTY",
  "dTHIRTYdFORTYdFIFTYdSIXTYdSEVENTYdEIGHTYdNINETYdONE HUNDREDeTHOUSAND:11200aKHOJKI LETTER A",
  "cAAcIcUcEcAIcOcAUcKAcKHAcGAcGGAcGHAcNGAcCAcCHAcJAcJJA:11213cNYAcTTAcTTHAcDDAcDDHAcNNAcTAcTHA",
  "cDAcDDDAcDHAcNAcPAcPHAcBAcBBAcBHAcMAcYAcRAcLAcVAcSAcHAcLLAbVOWEL SIGN AAdIdIIdUdEdAIdOdAU",
  "bSIGN ANUSVARAcVIRAMAcNUKTAcSHADDAbDANDAbDOUBLE DANDAbWORD SEPARATORbSECTION MARK",
  "bDOUBLE SECTION MARKbABBREVIATION SIGNbSIGN SUKUN:11280aMULTANI LETTER AcIcUcEcKAcKHAcGA",
  ":11288cGHA:1128AcCAcCHAcJAcJJA:1128FcNYAcTTAcTTHAcDDAcDDDAcDDHAcNNAcTAcTHAcDAcDHAcNAcPAcPHA",
  "cBA:1129FcBHAcMAcYAcRAcLAcVAcSAcHAcRRAcRHAbSECTION MARK:112B0aKHUDAWADI LETTER AcAAcIcIIcU",
  "cUUcEcAIcOcAUcKAcKHAcGAcGGAcGHAcNGAcCAcCHAcJAcJJAcJHAcNYAcTTAcTTHAcDDAcDDDAcRRAcDDHAcNNAcTA",
  "cTHAcDAcDHAcNAcPAcPHAcBAcBBAcBHAcMAcYAcRAcLAcVAcSHAcSAcHAbSIGN ANUSVARAbVOWEL SIGN AAdIdIIdU",
  "dUUdEdAIdOdAUbSIGN NUKTAcVIRAMA:112F0bDIGIT ZEROcONEcTWOcTHREEcFOURcFIVEcSIXcSEVENcEIGHT",
  "cNINE:11300aGRANTHA SIGN COMBINING ANUSVARA ABOVEcCANDRABINDUcANUSVARAcVISARGA",
  ":11305bLETTER AcAAcIcIIcUcUUcVOCALIC RdL:1130FcEEcAI:11313cOOcAUcKAcKHAcGAcGHAcNGAcCAcCHAcJA",
  "cJHAcNYAcTTAcTTHAcDDAcDDHAcNNAcTAcTHAcDAcDHAcNA:1132AcPAcPHAcBAcBHAcMAcYAcRA:11332cLAcLLA",
  ":11335cVAcSHAcSSAcSAcHA:1133BaCOMBINING BINDU BELOWaGRANTHA SIGN NUKTAcAVAGRAHA",
  "bVOWEL SIGN AAdIdIIdUdUUdVOCALIC ReRR:11347dEEdAI:1134BdOOdAUbSIGN VIRAMA:11350bOM",
  ":11357bAU LENGTH MARK:1135DbSIGN PLUTAbLETTER VEDIC ANUSVARAdDOUBLE ANUSVARAcVOCALIC RRdLL",
  "bVOWEL SIGN VOCALIC LeLL:11366aCOMBINING GRANTHA DIGIT ZEROdONEdTWOdTHREEdFOURdFIVEdSIX",
  ":11370cLETTER AdKAdNAdVIdPA:11400aNEWA LETTER AcAAcIcIIcUcUUcVOCALIC RdRRdLdLLcEcAIcOcAUcKA",
  "cKHAcGAcGHAcNGAcNGHAcCAcCHAcJAcJHAcNYAcNYHAcTTAcTTHAcDDAcDDHAcNNAcTAcTHAcDAcDHAcNAcNHAcPA",
  "cPHAcBAcBHAcMAcMHAcYAcRAcRHAcLAcLHAcWAcSHAcSSAcSAcHAbVOWEL SIGN AAdIdIIdUdUUdVOCALIC ReRReL",
  "eLLdEdAIdOdAUbSIGN VIRAMAcCANDRABINDUcANUSVARAcVISARGAcNUKTAcAVAGRAHAcFINAL ANUSVARAbOM",
  "bSIDDHIbDANDAbDOUBLE DANDAbCOMMAbGAP FILLERbABBREVIATION SIGNbDIGIT ZEROcONEcTWOcTHREEcFOUR",
  "cFIVEcSIXcSEVENcEIGHTcNINEbDOUBLE COMMAbPLACEHOLDER MARK:1145DbINSERTION SIGNbSANDHI MARK",
  "bLETTER VEDIC ANUSVARAbSIGN JIHVAMULIYAcUPADHMANIYA:11480aTIRHUTA ANJIbLETTER AcAAcIcIIcUcUU",
  "cVOCALIC RdRRdLdLLcEcAIcOcAUcKAcKHAcGAcGHAcNGAcCAcCHAcJAcJHAcNYAcTTAcTTHAcDDAcDDHAcNNAcTA",
  "cTHAcDAcDHAcNAcPAcPHAcBAcBHAcMAcYAcRAcLAcVAcSHAcSSAcSAcHAbVOWEL SIGN AAdIdIIdUdUUdVOCALIC R",
  "eRReLeLLdEdSHORT EdAIdOdSHORT OdAUbSIGN CANDRABINDUcANUSVARAcVISARGAcVIRAMAcNUKTAcAVAGRAHA",
  "bGVANGbABBREVIATION SIGNbOM:114D0bDIGIT ZEROcONEcTWOcTHREEcFOURcFIVEcSIXcSEVENcEIGHTcNINE",
  ":11580aSIDDHAM LETTER AcAAcIcIIcUcUUcVOCALIC RdRRdLdLLcEcAIcOcAUcKAcKHAcGAcGHAcNGAcCAcCHAcJA",
  "cJHAcNYAcTTAcTTHAcDDAcDDHAcNNAcTAcTHAcDAcDHAcNAcPAcPHAcBAcBHAcMAcYAcRAcLAcVAcSHAcSSAcSAcHA",
  "bVOWEL SIGN AAdIdIIdUdUUdVOCALIC ReRR:115B8dEdAIdOdAUbSIGN CANDRABINDUcANUSVARAcVISARGA",
  "cVIRAMAcNUKTAcSIDDHAMbDANDAbDOUBLE DANDAbSEPARATOR DOTcBARbREPETITION MARK-1cMARK-2cMARK-3",
  "bEND OF TEXT MARKbSECTION MARK WITH TRIDENT AND U-SHAPED ORNAMENTSgDOTTED CRESCENTS",
  "eRAYS AND DOTTED CRESCENTShDOUBLE CRESCENTShTRIPLE CRESCENTSdDOUBLE RINGfWITH RAYS",
  "dWITH DOUBLE CRESCENTSeTRIPLE CRESCENTSeQUADRUPLE CRESCENTSeSEPTUPLE CRESCENTS",
  "eCIRCLES AND RAYSgTWO ENCLOSURESgFOUR ENCLOSURESbLETTER THREE-CIRCLE ALTERNATE I",
  "cTWO-CIRCLE ALTERNATE IeIIcALTERNATE UbVOWEL SIGN ALTERNATE UeUU:11600aMODI LETTER AcAAcIcII",
  "cUcUUcVOCALIC RdRRdLdLLcEcAIcOcAUcKAcKHAcGAcGHAcNGAcCAcCHAcJAcJHAcNYAcTTAcTTHAcDDAcDDHAcNNA",
  "cTAcTHAcDAcDHAcNAcPAcPHAcBAcBHAcMAcYAcRAcLAcVAcSHAcSSAcSAcHAcLLAbVOWEL SIGN AAdIdIIdUdUU",
  "dVOCALIC ReRReLeLLdEdAIdOdAUbSIGN ANUSVARAcVISARGAcVIRAMAcARDHACANDRAbDANDAbDOUBLE DANDA",
  "bABBREVIATION SIGNbSIGN HUVA:11650bDIGIT ZEROcONEcTWOcTHREEcFOURcFIVEcSIXcSEVENcEIGHTcNINE",
  ":11660aMONGOLIAN BIRGA WITH ORNAMENTbROTATED BIRGAbDOUBLE BIRGA WITH ORNAMENT",
  "bTRIPLE BIRGA WITH ORNAMENTbBIRGA WITH DOUBLE ORNAMENTbROTATED BIRGA WITH ORNAMENT",
  "eDOUBLE ORNAMENTbINVERTED BIRGAdWITH DOUBLE ORNAMENTbSWIRL BIRGAdWITH ORNAMENT",
  "eDOUBLE ORNAMENTbTURNED SWIRL BIRGA WITH DOUBLE ORNAMENT:11680aTAKRI LETTER AcAAcIcIIcUcUUcE",
  "cAIcOcAUcKAcKHAcGAcGHAcNGAcCAcCHAcJAcJHAcNYAcTTAcTTHAcDDAcDDHAcNNAcTAcTHAcDAcDHAcNAcPAcPHA",
  "cBAcBHAcMAcYAcRAcLAcVAcSHAcSAcHAcRRAbSIGN ANUSVARAcVISARGAbVOWEL SIGN AAdIdIIdUdUUdEdAIdOdAU",
  "bSIGN VIRAMAcNUKTAbLETTER ARCHAIC KHAbABBREVIATION SIGN:116C0bDIGIT ZEROcONEcTWOcTHREEcFOUR",
  "cFIVEcSIXcSEVENcEIGHTcNINE:11700aAHOM LETTER KAcKHAcNGAcNAcTAcALTERNATE TAcPAcPHAcBAcMAcJA",
  "cCHAcTHAcRAcLAcSAcNYAcHAcAcDAcDHAcGAcALTERNATE GAcGHAcBHAcJHAcALTERNATE BA",
  ":1171DbCONSONANT SIGN MEDIAL LAeRAeLIGATING RAbVOWEL SIGN AdAAdIdIIdUdUUdEdAWdOdAIdAM",
  "bSIGN KILLER:11730bDIGIT ZEROcONEcTWOcTHREEcFOURcFIVEcSIXcSEVENcEIGHTcNINEbNUMBER TENcTWENTY",
  "bSIGN SMALL SECTIONcSECTIONcRULAIbSYMBOL VIbLETTER CAcTTAcTTHAcDDAcDDHAcNNAcLLA",
  ":11800aDOGRA LETTER AcAAcIcIIcUcUUcEcAIcOcAUcKAcKHAcGAcGHAcNGAcCAcCHAcJAcJHAcNYAcTTAcTTHA",
  "cDDAcDDHAcNNAcTAcTHAcDAcDHAcNAcPAcPHAcBAcBHAcMAcYAcRAcLAcVAcSHAcSSAcSAcHAcRRAbVOWEL SIGN AA",
  "dIdIIdUdUUdVOCALIC ReRRdEdAIdOdAUbSIGN ANUSVARAcVISARGAcVIRAMAcNUKTAbABBREVIATION SIGN",
  ":118A0aWARANG CITI CAPITAL LETTER NGAAeAeWIeYUeYAeYOeIIeUUeEeOeANGeGAeKOeENYeYUJeUCeENNeODD",
  "eTTEeNUNGeDAeATeAMeBUePUeHIYOeHOLOeHORReHAReSSUUeSIIeVIYOcSMALL LETTER NGAAeAeWIeYUeYAeYOeII",
  "eUUeEeOeANGeGAeKOeENYeYUJeUCeENNeODDeTTEeNUNGeDAeATeAMeBUePUeHIYOeHOLOeHORReHAReSSUUeSII",
  "eVIYOcDIGIT ZEROdONEdTWOdTHREEdFOURdFIVEdSIXdSEVENdEIGHTdNINEcNUMBER TENdTWENTYdTHIRTYdFORTY",
  "dFIFTYdSIXTYdSEVENTYdEIGHTYdNINETY:118FFcOMaDIVES AKURU LETTER AdAAdIdIIdUdUUdE:11909dO",
  ":1190CdKAdKHAdGAdGHAdNGAdCAdCHAdJA:11915dNYAdTTA:11918dDDAdDDHAdNNAdTAdTHAdDAdDHAdNAdPAdPHA",
  "dBAdBHAdMAdYAdYYAdRAdLAdVAdSHAdSSAdSAdHAdLLAdZAcVOWEL SIGN AAeIeIIeUeUUeE:11937eAIeO",
  ":1193BcSIGN ANUSVARAdCANDRABINDUdHALANTAcVIRAMAcPREFIXED NASAL SIGNcMEDIAL YAcINITIAL RA",
  "cMEDIAL RAcSIGN NUKTAcDOUBLE DANDAcGAP FILLERcEND OF TEXT MARK:11950cDIGIT ZEROdONEdTWO",
  "dTHREEdFOURdFIVEdSIXdSEVENdEIGHTdNINE:119A0aNANDINAGARI LETTER AcAAcIcIIcUcUUcVOCALIC RdRR",
  ":119AAcEcAIcOcAUcKAcKHAcGAcGHAcNGAcCAcCHAcJAcJHAcNYAcTTAcTTHAcDDAcDDHAcNNAcTAcTHAcDAcDHAcNA",
  "cPAcPHAcBAcBHAcMAcYAcRAcLAcVAcSHAcSSAcSAcHAcLLAcRRAbVOWEL SIGN AAdIdIIdUdUUdVOCALIC ReRR",
  ":119DAdEdAIdOdAUbSIGN ANUSVARAcVISARGAcVIRAMAcAVAGRAHAcSIDDHAMbHEADSTROKE",
  "bVOWEL SIGN PRISHTHAMATRA E:11A00aZANABAZAR SQUARE LETTER AcVOWEL SIGN IeUEeUeEeOEeOeAIeAU",
  "eREVERSED IdLENGTH MARKcLETTER KAdKHAdGAdGHAdNGAdCAdCHAdJAdNYAdTTAdTTHAdDDAdDDHAdNNAdTAdTHA",
  "dDAdDHAdNAdPAdPHAdBAdBHAdMAdTSAdTSHAdDZAdDZHAdZHAdZAd-AdYAdRAdLAdVAdSHAdSSAdSAdHAdKSSA",
  "cFINAL CONSONANT MARKcSIGN VIRAMAdCANDRABINDUeWITH ORNAMENTdCANDRA WITH ORNAMENTdANUSVARA",
  "dVISARGAcCLUSTER-INITIAL LETTER RAcCLUSTER-FINAL LETTER YAeRAeLAeVAcINITIAL HEAD MARK",
  "cCLOSING HEAD MARKcMARK TSHEGdSHADdDOUBLE SHADdLONG TSHEGcINITIAL DOUBLE-LINED HEAD MARK",
  "cCLOSING DOUBLE-LINED HEAD MARKcSUBJOINER:11A50aSOYOMBO LETTER AbVOWEL SIGN IdUEdUdEdOdOEdAI",
  "dAUdVOCALIC ReLcLENGTH MARKbLETTER KAcKHAcGAcGHAcNGAcCAcCHAcJAcJHAcNYAcTTAcTTHAcDDAcDDHAcNNA",
  "cTAcTHAcDAcDHAcNAcPAcPHAcBAcBHAcMAcTSAcTSHAcDZAcZHAcZAc-AcYAcRAcLAcVAcSHAcSSAcSAcHAcKSSA",
  "bSIGN JIHVAMULIYAcUPADHMANIYAbCLUSTER-INITIAL LETTER RAdLAdSHAdSAbFINAL CONSONANT SIGN GeK",
  "eNGeDeNeBeMeReLeSHeSe-AbSIGN ANUSVARAcVISARGAbGEMINATION MARKbSUBJOINERbMARK TSHEGcSHAD",
  "cDOUBLE SHADcPLUTAbHEAD MARK WITH MOON AND SUN AND TRIPLE FLAMEiFLAMEgSUNbTERMINAL MARK-1",
  "cMARK-2:11AB0aCANADIAN SYLLABICS NATTILIK HIdHIIdHOdHOOdHAdHAAdSHRIdSHRIIdSHROdSHROOdSHRA",
  "dSHRAAcSPEcSPIcSPOcSPAaPAU CIN HAU LETTER PAeKAeLAeMAeDAeZAeVAeNGAeHAeGAeKHAeSAeBAeCAeTAeTHA",
  "eNAePHAeRAeFAeCHAeAeEeIeOeUeUAeIAeFINAL PfKfTfMfNfLfWfNGfYdRISING TONE LONGeTONE",
  "dSANDHI GLOTTAL STOPdRISING TONE LONG FINALfFINALdSANDHI GLOTTAL STOP FINALeTONE LONGeTONE",
  "fLONG FINALfFINALdMID-LEVEL TONEdGLOTTAL STOP VARIANTdMID-LEVEL TONE LONG FINALfFINAL",
  "dLOW-FALLING TONE LONGeTONEdGLOTTAL STOPdLOW-FALLING TONE LONG FINALfFINAL",
  "dGLOTTAL STOP FINAL:11C00aBHAIKSUKI LETTER AcAAcIcIIcUcUUcVOCALIC RdRRdL:11C0AcEcAIcOcAUcKA",
  "cKHAcGAcGHAcNGAcCAcCHAcJAcJHAcNYAcTTAcTTHAcDDAcDDHAcNNAcTAcTHAcDAcDHAcNAcPAcPHAcBAcBHAcMAcYA",
  "cRAcLAcVAcSHAcSSAcSAcHAbVOWEL SIGN AAdIdIIdUdUUdVOCALIC ReRReL:11C38dEdAIdOdAU",
  "bSIGN CANDRABINDUcANUSVARAcVISARGAcVIRAMAcAVAGRAHAbDANDAbDOUBLE DANDAbWORD SEPARATOR",
  "bGAP FILLER-1cFILLER-2:11C50bDIGIT ZEROcONEcTWOcTHREEcFOURcFIVEcSIXcSEVENcEIGHTcNINE",
  "bNUMBER ONEcTWOcTHREEcFOURcFIVEcSIXcSEVENcEIGHTcNINEcTENcTWENTYcTHIRTYcFORTYcFIFTYcSIXTY",
  "cSEVENTYcEIGHTYcNINETYbHUNDREDS UNIT MARK:11C70aMARCHEN HEAD MARKbMARK SHADbLETTER KAcKHAcGA",
  "cNGAcCAcCHAcJAcNYAcTAcTHAcDAcNAcPAcPHAcBAcMAcTSAcTSHAcDZAcWAcZHAcZAc-AcYAcRAcLAcSHAcSAcHAcA",
  ":11C92bSUBJOINED LETTER KAdKHAdGAdNGAdCAdCHAdJAdNYAdTAdTHAdDAdNAdPAdPHAdBAdMAdTSAdTSHAdDZA",
  "dWAdZHAdZA:11CA9dYAdRAdLAdSHAdSAdHAdAbVOWEL SIGN AAdIdUdEdObSIGN ANUSVARAcCANDRABINDU",
  ":11D00aMASARAM GONDI LETTER AdAAdIdIIdUdUUdE:11D08dAIdO:11D0BdAUdKAdKHAdGAdGHAdNGAdCAdCHAdJA",
  "dJHAdNYAdTTAdTTHAdDDAdDDHAdNNAdTAdTHAdDAdDHAdNAdPAdPHAdBAdBHAdMAdYAdRAdLAdVAdSHAdSSAdSAdHA",
  "dLLAdKSSAdJNYAdTRAcVOWEL SIGN AAeIeIIeUeUUeVOCALIC R:11D3AeE:11D3CeAIeO:11D3FeAU",
  "cSIGN ANUSVARAdVISARGAdNUKTAdCANDRAdHALANTAcVIRAMAcREPHAcRA-KARA:11D50cDIGIT ZEROdONEdTWO",
  "dTHREEdFOURdFIVEdSIXdSEVENdEIGHTdNINE:11D60aGUNJALA GONDI LETTER AdAAdIdIIdUdUU:11D67dEEdAI",
  ":11D6AdOOdAUdYAdVAdBAdBHAdMAdKAdKHAdTAdTHAdLAdGAdGHAdDAdDHAdNAdCAdCHAdTTAdTTHAdLLAdJAdJHA",
  "dDDAdDDHAdNGAdPAdPHAdHAdRAdSAcVOWEL SIGN AAeIeIIeUeUU:11D90eEEeAI:11D93eOOeAUcSIGN ANUSVARA",
  "dVISARGAcVIRAMAcOM:11DA0cDIGIT ZEROdONEdTWOdTHREEdFOURdFIVEdSIXdSEVENdEIGHTdNINE",
  ":11EE0aMAKASAR LETTER KAcGAcNGAcPAcBAcMAcTAcDAcNAcCAcJAcNYAcYAcRAcLAcVAcSAcAbANGKA",
  "bVOWEL SIGN IdUdEdObPASSIMBANGbEND OF SECTION:11FB0aLISU LETTER YHA",
  ":11FC0aTAMIL FRACTION ONE THREE-HUNDRED-AND-TWENTIETHdONE-HUNDRED-AND-SIXTIETHdEIGHTIETH",
  "dSIXTY-FOURTHdFORTIETHdTHIRTY-SECONDcTHREE EIGHTIETHSdSIXTY-FOURTHScONE TWENTIETH",
  "dSIXTEENTH-1dSIXTEENTH-2dTENTHdEIGHTHcTHREE TWENTIETHSdSIXTEENTHScONE FIFTHdQUARTERdHALF-1",
  "dHALF-2cTHREE QUARTERScDOWNSCALING FACTOR KIIZHbSIGN NELcCEVITUcAAZHAAKKUcUZHAKKU",
  "cMUUVUZHAKKUcKURUNIcPATHAKKUcMUKKURUNIcKAACUcPANAMcPONcVARAAKANcPAARAMcKUZHIcVELI",
  "bWET CULTIVATION SIGNbDRY CULTIVATION SIGNbLAND SIGNbSALT PAN SIGNbTRADITIONAL CREDIT SIGN",
  "cNUMBER SIGNbCURRENT SIGNbAND ODD SIGNbSPENT SIGNbTOTAL SIGNbIN POSSESSION SIGN",
  "bSTARTING FROM SIGNbSIGN MUTHALIYAcVAKAIYARAA:11FFFbPUNCTUATION END OF TEXTaCUNEIFORM SIGN A",
  "dTIMES AeBADeGAN2 TENUeHAeIGIeLAGAR GUNUeMUSHeSAGcA2cABdTIMES ASH2eDUN3 GUNUeGALeGAN2 TENU",
  "eHAeIGI GUNUeIMINeLAGABeSHESHeU PLUS U PLUS UdGUNUcAB2dTIMES BALAGeGAN2 TENUeME PLUS ENeSHA3",
  "eTAK4cADcAKdTIMES ERIN2eSHITA PLUS GISHcALdTIMES ALeDIM2eGISHeHAeKAD3eKIeSHEeUSHcALANcALEPH",
  "cAMARdTIMES SHEcANdOVER ANdTHREE TIMESdPLUS NAGA OPPOSING AN PLUS NAGAfSQUAREDcANSHEcAPIN",
  "cARADdTIMES KURcARKABcASAL2cASHdZIDA TENUdKABA TENU",
  "dOVER ASH TUG2 OVER TUG2 TUG2 OVER TUG2 PAPfOVER ASHhCROSSING ASH OVER ASH OVER ASHcASH2",
  "cASHGABcBAcBADcBAG3cBAHAR2cBALdOVER BALcBALAGcBARcBARA2cBIdTIMES AeGAReIGI GUNUcBU",
  "dOVER BU ABfUNdCROSSING BUcBULUGdOVER BULUGcBURcBUR2cDAcDAGdKISIM5 TIMES A PLUS MASHfAMAR",
  "fBALAGfBIfGAgPLUS MASHfGIfGIR2fGUDfHAfIRgPLUS LUfKAKfLAfLUgPLUS MASH2fLUMfNEfPAP PLUS PAPfSI",
  "fTAK4fU2 PLUS GIR2fUSHcDAMcDARcDARA3cDARA4cDIcDIBcDIMdTIMES SHEcDIM2cDINdKASKAL U GUNU DISH",
  "cDISHcDUdOVER DUdGUNUdSHESHIGcDUBdTIMES ESH2cDUB2cDUGcDUGUDcDUHcDUNcDUN3dGUNUeGUNUcDUN4cDUR2",
  "cEdTIMES PAPdOVER E NUN OVER NUNcE2dTIMES A PLUS HA PLUS DAeGAReMIeSALeSHEeUcEDINcEGIRcELcEN",
  "dTIMES GAN2fTENUeMEdCROSSING ENdOPPOSING ENdSQUAREDcERENcERIN2cESH2cEZENdTIMES AfPLUS LAL",
  "hTIMES LALeANeBADeDUN3 GUNUgGUNUeHAfGUNUeIGI GUNUeKASKALfSQUAREDeKU3eLAeLAL TIMES LALeLIeLU",
  "eU2eUDcGAdGUNUcGA2dTIMES A PLUS DA PLUS HAgHAgIGIeAB2 TENU PLUS TABeANeASHeASH2 PLUS GALeBAD",
  "eBAR PLUS RAeBURfPLUS RAeDAeDIeDIM TIMES SHEeDUBeELfPLUS LAeENfTIMES GAN2 TENUeGAN2 TENUeGAR",
  "eGIeGI4fPLUS AeGIR2 PLUS SUeHA PLUS LU PLUS ESH2eHALfPLUS LAeHI PLUS LIeHUB2eIGI GUNU",
  "eISH PLUS HU PLUS ASHeKAKeKASKALeKIDfPLUS LALeKU3 PLUS ANeLAeME PLUS ENeMIeNUNfOVER NUNePA",
  "eSALeSAReSHEfPLUS TUReSHIDeSUMeTAK4eUeUDfPLUS DUdOVER GA2cGABAdCROSSING GABAcGAD",
  "dOVER GAD GAR OVER GARcGALdGAD OVER GAD GAR OVER GARcGALAMcGAMcGANcGAN2dTENUdOVER GAN2",
  "dCROSSING GAN2cGARcGAR3cGASHANcGESHTINdTIMES KURcGIdTIMES EeUdCROSSING GIcGI4dOVER GI4",
  "dCROSSING GI4cGIDIMcGIR2dGUNUcGIR3dTIMES A PLUS IGIeGAN2 TENUeIGIeLU PLUS IGIePAcGISALcGISH",
  "dCROSSING GISHdTIMES BADeTAK4dTENUcGUdCROSSING GUcGU2dTIMES KAKfTIMES IGI GUNUeNUN",
  "eSAL PLUS TUG2dGUNUcGUDdTIMES A PLUS KUReKURdOVER GUD LUGALcGULcGUMdTIMES SHEcGURcGUR7cGURUN",
  "cGURUSHcHAdTENUdGUNUcHALcHIdTIMES ASHeASH2eBADeDISHeGADeKINeNUNeSHEeUcHUcHUB2dTIMES ANeHAL",
  "eKASKALeLISHeUDcHUL2cIdAcIBcIDIMdOVER IDIM BURfSQUAREDcIGcIGIdDIBdRI",
  "dOVER IGI SHIR OVER SHIR UD OVER UDdGUNUcILdTIMES GAN2 TENUcIL2cIMdTIMES TAK4dCROSSING IM",
  "dOPPOSING IMdSQUAREDcIMINcINcIRcISHcKAdTIMES AeADfPLUS KU3eASH2eBADeBALAGeBAReBIeERIN2eESH2",
  "eGAeGALeGAN2 TENUeGARfPLUS SHA3 PLUS AeGIeGIR2eGISH PLUS SARfCROSSING GISHeGUeGUR7eIGIeIM",
  "eKAKeKIeKIDeLIeLUeMEfPLUS DUgGIgTEeMIfPLUS NUNUZeNEeNUNePIeRUeSAeSAReSHAeSHEeSHIDeSHUeSIG",
  "eSUHUReTAReUeU2eUDeUMUM TIMES PAeUSHeZIcKA2dCROSSING KA2cKABcKAD2cKAD3cKAD4cKAD5dOVER KAD5",
  "cKAKdTIMES IGI GUNUcKALdTIMES BADdCROSSING KALcKAM2cKAM4cKASKAL",
  "dLAGAB TIMES U OVER LAGAB TIMES UdOVER KASKAL LAGAB TIMES U OVER LAGAB TIMES UcKESH2cKI",
  "dTIMES BADeUeUDcKIDcKINcKISALcKISHcKISIM5dOVER KISIM5cKU",
  "dOVER HI TIMES ASH2 KU OVER HI TIMES ASH2cKU3cKU4dVARIANT FORMcKU7cKULdGUNUcKUNcKUR",
  "dOPPOSING KURcKUSHU2cKWU318cLAcLAGABdTIMES AfPLUS DA PLUS HAgGARgLALeALeANeASH ZIDA TENUeBAD",
  "eBIeDAReENeGAeGAReGUDfPLUS GUDeHAeHALeHI TIMES NUNeIGI GUNUeIMfPLUS HAgLUeKIeKINeKU3eKUL",
  "fPLUS HI PLUS AeLAGABeLISHeLUeLULeMEfPLUS ENeMUSHeNEeSHE PLUS SUMeSHITA PLUS GISH PLUS ERIN2",
  "hTENUeSHU2fPLUS SHU2eSUMeTAGeTAK4eTE PLUS A PLUS SU PLUS NAeUfPLUS AgU PLUS UeU2 PLUS ASHeUD",
  "eUSHdSQUAREDcLAGARdTIMES SHEfPLUS SUMdGUNUeOVER LAGAR GUNU SHEcLAHSHUcLALdTIMES LALcLAM",
  "dTIMES KURfPLUS RUcLIcLILcLIMMU2cLISHcLUdTIMES BADcLU2dTIMES ALeBADeESH2fTENUeGAN2 TENU",
  "eHI TIMES BADeIMeKAD2eKAD3fPLUS ASHeKIeLA PLUS ASHeLAGABeME PLUS ENeNEeNUeSI PLUS ASH",
  "eSIK2 PLUS BUeTUG2dTENUdCROSSING LU2dOPPOSING LU2dSQUAREDdSHESHIGcLU3cLUGALdOVER LUGAL",
  "dOPPOSING LUGALdSHESHIGcLUHcLULcLUMdOVER LUMfGAR OVER GARcMAdTIMES TAK4dGUNUcMA2cMAHcMAR",
  "cMASHcMASH2cMEcMEScMIcMINcMUdOVER MUcMUGdGUNUcMUNSUBcMURGU2cMUSHdTIMES AeKUReZAdOVER MUSH",
  "fTIMES A PLUS NAdCROSSING MUSHcMUSH3dTIMES AfPLUS DIeDIdGUNUcNAcNA2cNAGAdINVERTED",
  "dTIMES SHU TENUdOPPOSING NAGAcNAGARcNAM NUTILLUcNAMcNAM2cNEdTIMES AeUDdSHESHIGcNIdTIMES E",
  "cNI2cNIMdTIMES GAN2 TENUeGAR PLUS GAN2 TENUcNINDA2dTIMES ANeASHfPLUS ASHeGUD",
  "eME PLUS GAN2 TENUeNEeNUNeSHEfPLUS A ANgASHhPLUS ASHeU2 PLUS ASHeUSHcNISAGcNUcNU11cNUN",
  "dLAGAR TIMES GARfMASHfSALgOVER NUN LAGAR TIMES SALfUSHdTENUdOVER NUNdCROSSING NUN",
  "fLAGAR OVER LAGARcNUNUZdAB2 TIMES ASHGABfBIfDUGfGUDfIGI GUNUfKAD3fLAfNEfSILA3fU2",
  "dKISIM5 TIMES BIgUcPAcPADcPANcPAPcPESH2cPIdTIMES AeABeBIeBUeEeIeIBeUeU2dCROSSING PIcPIRIG",
  "dTIMES KALeUDeZAdOPPOSING PIRIGcRAcRABcRIcRUcSAcSAG NUTILLUcSAGdTIMES AeDUeDUBeHAeKAKeKUR",
  "eLUMeMIeNUNeSALeSHIDeTABeU2eUBeUMeUReUSHdOVER SAGdGUNUcSALdLAGAB TIMES ASH2cSANGA2cSARcSHA",
  "cSHA3dTIMES AeBADeGISHeNEeSHU2eTUReUfPLUS AcSHA6cSHAB6cSHAR2cSHEdHU",
  "dOVER SHE GAD OVER GAD GAR OVER GARfTAB OVER TAB GAR OVER GARcSHEG9cSHENcSHESHcSHESH2",
  "cSHESHLAMcSHIDdTIMES AeIMcSHIMdTIMES AeBALeBULUGeDINeGAReIGIfGUNUeKUSHU2eLULeMUGeSALcSHINIG",
  "cSHIRdTENUdOVER SHIR BUR OVER BURcSHITAcSHUdOVER INVERTED SHUcSHU2cSHUBURcSIdGUNUcSIGcSIG4",
  "dOVER SIG4 SHU2cSIK2cSILA3cSUdOVER SUcSUDcSUD2cSUHURcSUMcSUMASHcSURcSUR9cTAdASTERISK",
  "dTIMES HIeMIdGUNUcTABdOVER TAB NI OVER NI DISH OVER DISHdSQUAREDcTAGdTIMES BIeGUDeSHEeSHU",
  "eTUG2eUDcTAK4cTARcTEdGUNUcTIdTENUcTILcTIRdTIMES TAK4dOVER TIRfGAD OVER GAD GAR OVER GARcTU",
  "cTUG2cTUKcTUMcTURdOVER TUR ZA OVER ZAcUdGUDdU UdOVER U PA OVER PA GAR OVER GARfSUR OVER SUR",
  "fU REVERSED OVER U REVERSEDcU2cUBcUDdKUSHU2dTIMES BADeMIeU PLUS U PLUS UjGUNUdGUNUdSHESHIG",
  "eTIMES BADcUDUGcUMdTIMES LAGABeME PLUS DAeSHA3eUcUMBINcUMUMdTIMES KASKALePAcUNdGUNUcUR",
  "dCROSSING URdSHESHIGcUR2dTIMES A PLUS HAgNAeALeHAeNUNeU2fPLUS ASHgBIcUR4cURIcURI3cURU",
  "dTIMES AeASHGABeBAReDUNeGAeGALeGAN2 TENUeGAReGUeHAeIGIeIMeISHeKIeLUMeMINePAeSHEeSIG4eTU",
  "eU PLUS GUDeUDeURUDAcURUDAdTIMES UcUSHdTIMES AeKUeKUReTAK4cUSHXcUSH2cUSHUMXcUTUKIcUZ3",
  "dTIMES KASKALcUZUcZAdTENUdSQUARED TIMES KURcZAGcZAMXcZE2cZIdOVER ZIcZI3cZIBdKABA TENUcZIG",
  "cZIZ2cZUcZU5dTIMES AcZUBURcZUMcKAP ELAMITEcAB TIMES NUNcAB2 TIMES AcAMAR TIMES KUG",
  "cDAG KISIM5 TIMES U2 PLUS MASHcDAG3cDISH PLUS SHUcDUB TIMES SHEcEZEN TIMES GUDeSHE",
  "cGA2 TIMES AN PLUS KAK PLUS AeASH2cGE22cGIGcHUSHcKA TIMES ANSHEeASH3eGISHeGUDeHI TIMES ASH2",
  "eLUMePAeSHULeTUeUR2cLAGAB TIMES GIcLU2 SHESHIG TIMES BADdTIMES ESH2 PLUS LALeSHUcMESH",
  "cMUSH3 TIMES ZAcNA4cNINcNIN9cNINDA2 TIMES BALeGIcNU11 ROTATED NINETY DEGREEScPESH2 ASTERISK",
  "cPIR2cSAG TIMES IGI GUNUcTI2cUM TIMES MEcU U:12400bNUMERIC SIGN TWO ASHdTHREE ASHdFOUR ASH",
  "dFIVE ASHdSIX ASHdSEVEN ASHdEIGHT ASHdNINE ASHdTHREE DISHdFOUR DISHdFIVE DISHdSIX DISH",
  "dSEVEN DISHdEIGHT DISHdNINE DISHdFOUR UdFIVE UdSIX UdSEVEN UdEIGHT UdNINE UdONE GESH2",
  "dTWO GESH2dTHREE GESH2dFOUR GESH2dFIVE GESH2dSIX GESH2dSEVEN GESH2dEIGHT GESH2dNINE GESH2",
  "dONE GESHUdTWO GESHUdTHREE GESHUdFOUR GESHUdFIVE GESHUdTWO SHAR2dTHREE SHAR2fVARIANT FORM",
  "dFOUR SHAR2dFIVE SHAR2dSIX SHAR2dSEVEN SHAR2dEIGHT SHAR2dNINE SHAR2dONE SHARUdTWO SHARU",
  "dTHREE SHARUfVARIANT FORMdFOUR SHARUdFIVE SHARUdSHAR2 TIMES GAL PLUS DISHhMINdONE BURU",
  "dTWO BURUdTHREE BURUfVARIANT FORMdFOUR BURUdFIVE BURUdTHREE VARIANT FORM ESH16gESH21",
  "dFOUR VARIANT FORM LIMMUgLIMMU4gLIMMU AhBdSIX VARIANT FORM ASH9dSEVEN VARIANT FORM IMIN3",
  "gIMIN AhBdEIGHT VARIANT FORM USSUgUSSU3dNINE VARIANT FORM ILIMMUgILIMMU3gILIMMU4gILIMMU A",
  "dTWO ASH TENUdTHREE ASH TENUdFOUR ASH TENUdFIVE ASH TENUdSIX ASH TENUdONE BAN2dTWO BAN2",
  "dTHREE BAN2dFOUR BAN2fVARIANT FORMdFIVE BAN2fVARIANT FORMdNIGIDAMINdNIGIDAESHdONE ESHE3",
  "dTWO ESHE3dONE THIRD DISHdTWO THIRDS DISHdFIVE SIXTHS DISHdONE THIRD VARIANT FORM A",
  "dTWO THIRDS VARIANT FORM AdONE EIGHTH ASHeQUARTER ASHdOLD ASSYRIAN ONE SIXTHgQUARTER",
  "dONE QUARTER GUReHALF GURdELAMITE ONE THIRDeTWO THIRDSeFORTYeFIFTYdFOUR U VARIANT FORM",
  "dFIVE U VARIANT FORMdSIX U VARIANT FORMdSEVEN U VARIANT FORMdEIGHT U VARIANT FORM",
  "dNINE U VARIANT FORM:12470bPUNCTUATION SIGN OLD ASSYRIAN WORD DIVIDERdVERTICAL COLON",
  "dDIAGONAL COLONeTRICOLONeQUADCOLON:12480bSIGN AB TIMES NUN TENUeSHU2cAD TIMES ESH2",
  "cBAD TIMES DISH TENUcBAHAR2 TIMES AB2eNIeZAcBU OVER BU TIMES NA2cDA TIMES TAK4cDAG TIMES KUR",
  "cDIM TIMES IGIeU U UcDIM2 TIMES UDcDUG TIMES ANSHEeASHfAT LEFTeDINeDUNeERIN2eGAeGIeGIR2 GUNU",
  "eGISHeHAeHIeIGI GUNUeKASKALeKUReKUSHU2fPLUS KASKALeLAK-020eLAMfTIMES KUReLUH PLUS GISHeMASH",
  "eMESeMIeNIePIeSHEeSI GUNUcE2 TIMES KURePAPcERIN2 XcESH2 CROSSING ESH2cEZEN SHESHIG TIMES ASH",
  "fHIfIGI GUNUfLAfLALfMEfMESfSUdTIMES SUcGA2 TIMES BAHAR2eDIM GUNUeDUG TIMES IGI GUNUgKASKAL",
  "eERENeGAeGAR PLUS DIgNEeHA PLUS AeKUSHU2 PLUS KASKALeLAMfTIMES KUReLUHeMUSHeNEfPLUS E2gGI",
  "eSHIMeZIZ2cGABA ROTATED NINETY DEGREEScGESHTIN TIMES UcGISH TIMES GISH CROSSING GISH",
  "cGU2 TIMES IGI GUNUcGUD PLUS GISH TIMES TAK4cHA TENU GUNUcHI TIMES ASH OVER HI TIMES ASH",
  "cKA TIMES BUeKAeU U UeURcLAGAB TIMES ZU OVER ZUcLAK-003cLAK-021cLAK-025cLAK-030cLAK-050",
  "cLAK-051cLAK-062cLAK-079 OVER LAK-079 GUNUcLAK-080cLAK-081 OVER LAK-081cLAK-092cLAK-130",
  "cLAK-142cLAK-210cLAK-219cLAK-220cLAK-225cLAK-228cLAK-238cLAK-265cLAK-266cLAK-343cLAK-347",
  "cLAK-348cLAK-383cLAK-384cLAK-390cLAK-441cLAK-449dTIMES GUeIGIePAP PLUS LU3gPAP PLUS LU3",
  "eU2 PLUS BAcLAK-450cLAK-457cLAK-470cLAK-483cLAK-490cLAK-492cLAK-493cLAK-495cLAK-550cLAK-608",
  "cLAK-617dTIMES ASHeBADeDUN3 GUNU GUNUeKU3eLAeTAReTEeU2eUDeURUDAcLAK-636cLAK-648dTIMES DUBeGA",
  "eIGIfGUNUeNIePAP PLUS PAP PLUS LU3eSHESH PLUS KIeUDeURUDAcLAK-724cLAK-749cLU2 GUNU TIMES ASH",
  "dTIMES DISHeHALePAPfPLUS PAP PLUS LU3eTAK4cMI PLUS ZA7cMUSH OVER MUSH TIMES GAgKAK",
  "cNINDA2 TIMES DIM GUNUeGISHeGULeHIeKESH2eLAK-050eMASHePAP PLUS PAPeUfPLUS UeURUDA",
  "cSAG GUNU TIMES HAdTIMES ENeSHE AT LEFTeTAK4cSHA6 TENUcSHE OVER SHEdPLUS HUB2eNAM2eSAR",
  "cSHU2 PLUS DUG TIMES NIeE2 TIMES ANcSI TIMES TAK4cTAK4 PLUS SAGcTUM TIMES GAN2 TENU",
  "eTHREE DISHcUR2 INVERTEDdTIMES UDcURU TIMES DARA3eLAK-668eLU3cZA7cZU OVER ZU PLUS SAR",
  "cZU5 TIMES THREE DISH TENU:12F90aCYPRO-MINOAN SIGN CM001cCM002cCM004cCM005cCM006cCM007cCM008",
  "cCM009cCM010cCM011cCM012cCM012BcCM013cCM015cCM017cCM019cCM021cCM023cCM024cCM025cCM026cCM027",
  "cCM028cCM029cCM030cCM033cCM034cCM035cCM036cCM037cCM038cCM039cCM040cCM041cCM044cCM046cCM047",
  "cCM049cCM050cCM051cCM052cCM053cCM054cCM055cCM056cCM058cCM059cCM060cCM061cCM062cCM063cCM064",
  "cCM066cCM067cCM068cCM069cCM070cCM071cCM072cCM073cCM074cCM075cCM075BcCM076cCM078cCM079cCM080",
  "cCM081cCM082cCM083cCM084cCM085cCM086cCM087cCM088cCM089cCM090cCM091cCM092cCM094cCM095cCM096",
  "cCM097cCM098cCM099cCM100cCM101cCM102cCM103cCM104cCM105cCM107cCM108cCM109cCM110cCM112cCM114",
  "cCM301cCM302:13000aEGYPTIAN HIEROGLYPH A001cA002cA003cA004cA005cA005AcA006cA006AcA006BcA007",
  "cA008cA009cA010cA011cA012cA013cA014cA014AcA015cA016cA017cA017AcA018cA019cA020cA021cA022cA023",
  "cA024cA025cA026cA027cA028cA029cA030cA031cA032cA032AcA033cA034cA035cA036cA037cA038cA039cA040",
  "cA040AcA041cA042cA042AcA043cA043AcA044cA045cA045AcA046cA047cA048cA049cA050cA051cA052cA053",
  "cA054cA055cA056cA057cA058cA059cA060cA061cA062cA063cA064cA065cA066cA067cA068cA069cA070cB001",
  "cB002cB003cB004cB005cB005AcB006cB007cB008cB009cC001cC002cC002AcC002BcC002CcC003cC004cC005",
  "cC006cC007cC008cC009cC010cC010AcC011cC012cC013cC014cC015cC016cC017cC018cC019cC020cC021cC022",
  "cC023cC024cD001cD002cD003cD004cD005cD006cD007cD008cD008AcD009cD010cD011cD012cD013cD014cD015",
  "cD016cD017cD018cD019cD020cD021cD022cD023cD024cD025cD026cD027cD027AcD028cD029cD030cD031cD031A",
  "cD032cD033cD034cD034AcD035cD036cD037cD038cD039cD040cD041cD042cD043cD044cD045cD046cD046AcD047",
  "cD048cD048AcD049cD050cD050AcD050BcD050CcD050DcD050EcD050FcD050GcD050HcD050IcD051cD052cD052A",
  "cD053cD054cD054AcD055cD056cD057cD058cD059cD060cD061cD062cD063cD064cD065cD066cD067cD067A",
  "cD067BcD067CcD067DcD067EcD067FcD067GcD067HcE001cE002cE003cE004cE005cE006cE007cE008cE008A",
  "cE009cE009AcE010cE011cE012cE013cE014cE015cE016cE016AcE017cE017AcE018cE019cE020cE020AcE021",
  "cE022cE023cE024cE025cE026cE027cE028cE028AcE029cE030cE031cE032cE033cE034cE034AcE036cE037cE038",
  "cF001cF001AcF002cF003cF004cF005cF006cF007cF008cF009cF010cF011cF012cF013cF013AcF014cF015cF016",
  "cF017cF018cF019cF020cF021cF021AcF022cF023cF024cF025cF026cF027cF028cF029cF030cF031cF031AcF032",
  "cF033cF034cF035cF036cF037cF037AcF038cF038AcF039cF040cF041cF042cF043cF044cF045cF045AcF046",
  "cF046AcF047cF047AcF048cF049cF050cF051cF051AcF051BcF051CcF052cF053cG001cG002cG003cG004cG005",
  "cG006cG006AcG007cG007AcG007BcG008cG009cG010cG011cG011AcG012cG013cG014cG015cG016cG017cG018",
  "cG019cG020cG020AcG021cG022cG023cG024cG025cG026cG026AcG027cG028cG029cG030cG031cG032cG033cG034",
  "cG035cG036cG036AcG037cG037AcG038cG039cG040cG041cG042cG043cG043AcG044cG045cG045AcG046cG047",
  "cG048cG049cG050cG051cG052cG053cG054cH001cH002cH003cH004cH005cH006cH006AcH007cH008cI001cI002",
  "cI003cI004cI005cI005AcI006cI007cI008cI009cI009AcI010cI010AcI011cI011AcI012cI013cI014cI015",
  "cK001cK002cK003cK004cK005cK006cK007cK008cL001cL002cL002AcL003cL004cL005cL006cL006AcL007cL008",
  "cM001cM001AcM001BcM002cM003cM003AcM004cM005cM006cM007cM008cM009cM010cM010AcM011cM012cM012A",
  "cM012BcM012CcM012DcM012EcM012FcM012GcM012HcM013cM014cM015cM015AcM016cM016AcM017cM017AcM018",
  "cM019cM020cM021cM022cM022AcM023cM024cM024AcM025cM026cM027cM028cM028AcM029cM030cM031cM031A",
  "cM032cM033cM033AcM033BcM034cM035cM036cM037cM038cM039cM040cM040AcM041cM042cM043cM044cN001",
  "cN002cN003cN004cN005cN006cN007cN008cN009cN010cN011cN012cN013cN014cN015cN016cN017cN018cN018A",
  "cN018BcN019cN020cN021cN022cN023cN024cN025cN025AcN026cN027cN028cN029cN030cN031cN032cN033",
  "cN033AcN034cN034AcN035cN035AcN036cN037cN037AcN038cN039cN040cN041cN042cNL001cNL002cNL003",
  "cNL004cNL005cNL005AcNL006cNL007cNL008cNL009cNL010cNL011cNL012cNL013cNL014cNL015cNL016cNL017",
  "cNL017AcNL018cNL019cNL020cNU001cNU002cNU003cNU004cNU005cNU006cNU007cNU008cNU009cNU010cNU010A",
  "cNU011cNU011AcNU012cNU013cNU014cNU015cNU016cNU017cNU018cNU018AcNU019cNU020cNU021cNU022",
  "cNU022AcO001cO001AcO002cO003cO004cO005cO005AcO006cO006AcO006BcO006CcO006DcO006EcO006FcO007",
  "cO008cO009cO010cO010AcO010BcO010CcO011cO012cO013cO014cO015cO016cO017cO018cO019cO019AcO020",
  "cO020AcO021cO022cO023cO024cO024AcO025cO025AcO026cO027cO028cO029cO029AcO030cO030AcO031cO032",
  "cO033cO033AcO034cO035cO036cO036AcO036BcO036CcO036DcO037cO038cO039cO040cO041cO042cO043cO044",
  "cO045cO046cO047cO048cO049cO050cO050AcO050BcO051cP001cP001AcP002cP003cP003AcP004cP005cP006",
  "cP007cP008cP009cP010cP011cQ001cQ002cQ003cQ004cQ005cQ006cQ007cR001cR002cR002AcR003cR003A",
  "cR003BcR004cR005cR006cR007cR008cR009cR010cR010AcR011cR012cR013cR014cR015cR016cR016AcR017",
  "cR018cR019cR020cR021cR022cR023cR024cR025cR026cR027cR028cR029cS001cS002cS002AcS003cS004cS005",
  "cS006cS006AcS007cS008cS009cS010cS011cS012cS013cS014cS014AcS014BcS015cS016cS017cS017AcS018",
  "cS019cS020cS021cS022cS023cS024cS025cS026cS026AcS026BcS027cS028cS029cS030cS031cS032cS033cS034",
  "cS035cS035AcS036cS037cS038cS039cS040cS041cS042cS043cS044cS045cS046cT001cT002cT003cT003AcT004",
  "cT005cT006cT007cT007AcT008cT008AcT009cT009AcT010cT011cT011AcT012cT013cT014cT015cT016cT016A",
  "cT017cT018cT019cT020cT021cT022cT023cT024cT025cT026cT027cT028cT029cT030cT031cT032cT032AcT033",
  "cT033AcT034cT035cT036cU001cU002cU003cU004cU005cU006cU006AcU006BcU007cU008cU009cU010cU011",
  "cU012cU013cU014cU015cU016cU017cU018cU019cU020cU021cU022cU023cU023AcU024cU025cU026cU027cU028",
  "cU029cU029AcU030cU031cU032cU032AcU033cU034cU035cU036cU037cU038cU039cU040cU041cU042cV001",
  "cV001AcV001BcV001CcV001DcV001EcV001FcV001GcV001HcV001IcV002cV002AcV003cV004cV005cV006cV007",
  "cV007AcV007BcV008cV009cV010cV011cV011AcV011BcV011CcV012cV012AcV012BcV013cV014cV015cV016cV017",
  "cV018cV019cV020cV020AcV020BcV020CcV020DcV020EcV020FcV020GcV020HcV020IcV020JcV020KcV020LcV021",
  "cV022cV023cV023AcV024cV025cV026cV027cV028cV028AcV029cV029AcV030cV030AcV031cV031AcV032cV033",
  "cV033AcV034cV035cV036cV037cV037AcV038cV039cV040cV040AcW001cW002cW003cW003AcW004cW005cW006",
  "cW007cW008cW009cW009AcW010cW010AcW011cW012cW013cW014cW014AcW015cW016cW017cW017AcW018cW018A",
  "cW019cW020cW021cW022cW023cW024cW024AcW025cX001cX002cX003cX004cX004AcX004BcX005cX006cX006A",
  "cX007cX008cX008AcY001cY001AcY002cY003cY004cY005cY006cY007cY008cZ001cZ002cZ002AcZ002BcZ002C",
  "cZ002DcZ003cZ003AcZ003BcZ004cZ004AcZ005cZ005AcZ006cZ007cZ008cZ009cZ010cZ011cZ012cZ013cZ014",
  "cZ015cZ015AcZ015BcZ015CcZ015DcZ015EcZ015FcZ015GcZ015HcZ015IcZ016cZ016AcZ016BcZ016CcZ016D",
  "cZ016EcZ016FcZ016GcZ016HcAA001cAA002cAA003cAA004cAA005cAA006cAA007cAA007AcAA007BcAA008cAA009",
  "cAA010cAA011cAA012cAA013cAA014cAA015cAA016cAA017cAA018cAA019cAA020cAA021cAA022cAA023cAA024",
  "cAA025cAA026cAA027cAA028cAA029cAA030cAA031cAA032:13430cVERTICAL JOINERcHORIZONTAL JOINER",
  "cINSERT AT TOP STARTeBOTTOM STARTeTOP ENDeBOTTOM ENDcOVERLAY MIDDLEcBEGIN SEGMENT",
  "cEND SEGMENT:14400aANATOLIAN HIEROGLYPH A001cA002cA003cA004cA005cA006cA007cA008cA009cA010",
  "cA010AcA011cA012cA013cA014cA015cA016cA017cA018cA019cA020cA021cA022cA023cA024cA025cA026cA026A",
  "cA027cA028cA029cA030cA031cA032cA033cA034cA035cA036cA037cA038cA039cA039AcA040cA041cA041AcA042",
  "cA043cA044cA045cA045AcA046cA046AcA046BcA047cA048cA049cA050cA051cA052cA053cA054cA055cA056",
  "cA057cA058cA059cA060cA061cA062cA063cA064cA065cA066cA066AcA066BcA066CcA067cA068cA069cA070",
  "cA071cA072cA073cA074cA075cA076cA077cA078cA079cA080cA081cA082cA083cA084cA085cA086cA087cA088",
  "cA089cA090cA091cA092cA093cA094cA095cA096cA097cA097AcA098cA098AcA099cA100cA100AcA101cA101A",
  "cA102cA102AcA103cA104cA104AcA104BcA104CcA105cA105AcA105BcA106cA107cA107AcA107BcA107CcA108",
  "cA109cA110cA110AcA110BcA111cA112cA113cA114cA115cA115AcA116cA117cA118cA119cA120cA121cA122",
  "cA123cA124cA125cA125AcA126cA127cA128cA129cA130cA131cA132cA133cA134cA135cA135AcA136cA137cA138",
  "cA139cA140cA141cA142cA143cA144cA145cA146cA147cA148cA149cA150cA151cA152cA153cA154cA155cA156",
  "cA157cA158cA159cA160cA161cA162cA163cA164cA165cA166cA167cA168cA169cA170cA171cA172cA173cA174",
  "cA175cA176cA177cA178cA179cA180cA181cA182cA183cA184cA185cA186cA187cA188cA189cA190cA191cA192",
  "cA193cA194cA195cA196cA197cA198cA199cA200cA201cA202cA202AcA202BcA203cA204cA205cA206cA207",
  "cA207AcA208cA209cA209AcA210cA211cA212cA213cA214cA215cA215AcA216cA216AcA217cA218cA219cA220",
  "cA221cA222cA223cA224cA225cA226cA227cA227AcA228cA229cA230cA231cA232cA233cA234cA235cA236cA237",
  "cA238cA239cA240cA241cA242cA243cA244cA245cA246cA247cA248cA249cA250cA251cA252cA253cA254cA255",
  "cA256cA257cA258cA259cA260cA261cA262cA263cA264cA265cA266cA267cA267AcA268cA269cA270cA271cA272",
  "cA273cA274cA275cA276cA277cA278cA279cA280cA281cA282cA283cA284cA285cA286cA287cA288cA289cA289A",
  "cA290cA291cA292cA293cA294cA294AcA295cA296cA297cA298cA299cA299AcA300cA301cA302cA303cA304cA305",
  "cA306cA307cA308cA309cA309AcA310cA311cA312cA313cA314cA315cA316cA317cA318cA319cA320cA321cA322",
  "cA323cA324cA325cA326cA327cA328cA329cA329AcA330cA331cA332AcA332BcA332CcA333cA334cA335cA336",
  "cA336AcA336BcA336CcA337cA338cA339cA340cA341cA342cA343cA344cA345cA346cA347cA348cA349cA350",
  "cA351cA352cA353cA354cA355cA356cA357cA358cA359cA359AcA360cA361cA362cA363cA364cA364AcA365cA366",
  "cA367cA368cA368AcA369cA370cA371cA371AcA372cA373cA374cA375cA376cA377cA378cA379cA380cA381",
  "cA381AcA382cA383 RA OR RIcA383AcA384cA385cA386cA386AcA387cA388cA389cA390cA391cA392",
  "cA393 EIGHTcA394cA395cA396cA397cA398cA399cA400cA401cA402cA403cA404cA405cA406cA407cA408cA409",
  "cA410 BEGIN LOGOGRAM MARKcA410A END LOGOGRAM MARKcA411cA412cA413cA414cA415cA416"]

/-- The names of characters from U+145D6 to U+1D82A. -/
def namesFrom145D6 : List String := [
  ":145D6aANATOLIAN HIEROGLYPH A417cA418cA419cA420cA421cA422cA423cA424cA425cA426cA427cA428cA429",
  "cA430cA431cA432cA433cA434cA435cA436cA437cA438cA439cA440cA441cA442cA443cA444cA445cA446cA447",
  "cA448cA449cA450cA450AcA451cA452cA453cA454cA455cA456cA457cA457AcA458cA459cA460cA461cA462cA463",
  "cA464cA465cA466cA467cA468cA469cA470cA471cA472cA473cA474cA475cA476cA477cA478cA479cA480cA481",
  "cA482cA483cA484cA485cA486cA487cA488cA489cA490cA491cA492cA493cA494cA495cA496cA497cA501cA502",
  "cA503cA504cA505cA506cA507cA508cA509cA510cA511cA512cA513cA514cA515cA516cA517cA518cA519cA520",
  "cA521cA522cA523cA524cA525cA526cA527cA528cA529cA530:16800aBAMUM LETTER PHASE-A NGKUE MFON",
  "dGBIEE FONdPON MFON PIPAEMGBIEEfPIPAEMBAdNAA MFONdSHUENSHUETdTITA MFONdNZA MFON",
  "dSHINDA PA NJIdPON PA NJI PIPAEMGBIEEgPIPAEMBAdMAEMBGBIEEdTU MAEMBAdNGANGUdMAEMVEUXdMANSUAE",
  "dMVEUAENGAMdSEUNYAMdNTOQPENdKEUKEUTNDAdNKINDIdSUUdNGKUENZEUMdLAPAQdLET KUTdNTAP MFAAdMAEKEUP",
  "dPASHAEdGHEUAERAEdPAMSHAEdMON NGGEUAETdNZUN MEUTdU YUQ NAEdGHEUAEGHEUAEdNTAP NTAAdSISA",
  "dMGBASAdMEUNJOMNDEUQdMOOMPUQdKAFAdPA LEERAEWAdNDA LEERAEWAdPETdMAEMKPENdNIKAdPUPdTUAEPdLUAEP",
  "dSONJAMdTEUTEUWENdMAENYIdKETdNDAANGGEUAETdKUOQdMOOMEUTdSHUMdLOMMAEdFIRIdROMdKPOQdSOQ",
  "dMAP PIEETdSHIRAEdNTAPdSHOQ NSHUT YUMdNYIT MONGKEUAEQdPAARAEdNKAARAEdUNKNOWNdNGGENdMAESI",
  "dNJAMdMBANYIdNYETdTEUAENdSOTdPAAMdNSHIEEdMAEMdNYIdKAQdNSHAdVEEdLUdNENdNAQdMBAQ",
  "cPHASE-B NSHUETdTU MAEMGBIEEdSIEEdSET TUdLOM NTEUMdMBA MAELEEdKIEEMdYEURAEdMBAARAEdKAM",
  "dPEESHIdYAFU LEERAEWAdLAM NSHUT NYAMdNTIEE SHEUOQdNDU NJAAdGHEUGHEUAEMdPITdTU NSIEE",
  "dSHET NJAQdSHEUAEQTUdMFON TEUAEQdMBIT MBAAKETdNYI NTEUMdKEUPUQdGHEUGHENdKEUYEUXdLAANAEdPARUM",
  "dVEUMdNGKINDI MVOPdNGGEU MBUdWUAETdSAKEUAEdTAAMdMEUQdNGGUOQeLARGEdMFIYAQdSUEdMBEURIdMONTIEEN",
  "dNYAEMAEdPUNGAAMdMEUT NGGEETdFEUXdMBUOQdFEEdKEUAEMdMA NJEUAENAeNJUQAdLETdNGGAAMdNSENdMAdKIQ",
  "dNGOMcPHASE-C NGKUE MAEMBAdNZAdYUMdWANGKUOQdNGGENdNDEUAEREEdNGKAQdGHARAEdMBEEKEETdGBAYI",
  "dNYIR MKPARAQ MEUNdNTU MBITdMBEUMdPIRIEENdNDOMBUdMBAA CABBAGE-TREEdKEUSHEUAEPdGHAPdKEUKAQ",
  "dYU MUOMAEdNZEUMdMBUEdNSEUAENdMBITdYEUQdKPARAQdKAAdSEUXdNDIDAdTAASHAEdNJUEQdTITA YUEdSUAET",
  "dNGGUAEN NYAMdVEUXdNANSANAQdMA KEUAERIdNTAAdNGGUONdLAPdMBIRIEENdMGBASAQdNTEUNGBAdTEUTEUX",
  "dNGGUMdFUEdNDEUTdNSAdNSHAQdBUNGdVEUAEPENdMBERAEdRUdNJAEMdLAMdTITUAEPdNSUOT NGOMdNJEEEEdKET",
  "dNGGUdMAESIdMBUAEMdLUdKUTdNJAMdNGOMdWUPdNGGUEETdNSOMdNTENdKUOP NKAARAEdNSUNdNDAMdMA NSIEE",
  "dYAAdNDAPdSHUEQdSETFONdMBIdMAEMBAdMBANYIdKEUSEUXdMBEUXdKEUMdMBAA PICKETdYUWOQdNJEUXdMIEE",
  "dMUAEdSHIQdKEN LAWeFATIGUEdNGAQdNAQdLIQdPINdPENdTETcPHASE-D MBUOdWAPdNJIdMFONdNJIEEdLIEE",
  "dNJEUTdNSHEEdNGGAAMAEdNYAMdWUAENdNGKUNdSHEEdNGKAPdKEUAETMEUNdTEUTdSHEUAEdNJAPdSUEdKET",
  "dYAEMMAEdKUOMdSAPdMFEUTdNDEUXdMALEERIdMEUTdSEUAEQdYENdNJEUAEMdKEUOT MBUAEdNGKEURIdTUdGHAA",
  "dNGKYEEdFEUFEUAETdNDEEdMGBOFUMdLEUAEPdNDONdMONIdMGBEUNdPUUTdMGBIEEdMFOdLUMdNSIEEPdMBAAdKWAET",
  "dNYETdTEUAENdSOTdYUWOQdKEUMdRAEMdTEEEEdNGKEUAEQdMFEUAEdNSIEETdKEUPdPIPdPEUTAEdNYUEdLET",
  "dNGGAAMdMFIEEdNGGWAENdYUOMdPAPdYUOPdNDAMdNTEUMdSUAEdKUNdNGGEUXdNGKIEEdTUOTdMEUNdKUQdNSUM",
  "dTEUNdMAENJETdNGGAPdLEUMdNGGUOMdNSHUTdNJUEQdGHEUAEdKUdREN OLDdTAEdTOQdNYIdRIIdLEEEEdMEEEEdM",
  "dSUUdMUdSHIIdSHEUXdKYEEdNUdSHUdNTEEdPEEdNIdSHOQdPUQdMVOPdLOQdREN MUCHdTIdNTUUdMBAA SEVENdSAQ",
  "dFAAcPHASE-E NDAPdTOONdMBEUMdLAPdVOMdLOONdPAAdSOMdRAQdNSHUOPdNDUNdPUAEdTAMdNGKAdKPEUXdWUO",
  "dSEEdNGGEUAETdPAAMdTOOdKUOPdLOMdNSHIEEdNGOPdMAEMdNGKEUXdNGOQdNSHUEdRIMGBAdNJEUXdPEEMdSAA",
  "dNGGURAEdMGBAdGHEUXdNGKEUAEMdNJAEMLIdMAPdLOOTdNGGEEEEdNDIQdTAEN NTEUMdSETdPUMdNDAA SOFTNESS",
  "dNGGUAESHAE NYAMdYIEEdGHEUNdTUAEdYEUAEdPOdTUMAEdKEUAEdSUAENdTEUAEQdVEUAEdWEUXdLAAMdPUdTAAQ",
  "dGHAAMAEdNGEUREUTdSHEUAEQdMGBENdMBEEdNZAQdNKOMdGBETdTUMdKUETdYAPdNYI CLEAVERdYITdMFEUQdNDIAQ",
  "dPIEEQdYUEQdLEUAEMdFUEdGBEUXdNGKUPdKETdMAEdNGKAAMIdGHETdFAdNTUMdPEUTdYEUMdNGGEUAE",
  "dNYI BETWEENdNZUQdPOONdMIEEdFUETdNAEdMUAEdGHEUAEdFU IdMVIdPUAQdNGKUMdKUTdPIETdNTAPdYEUAET",
  "dNGGUPdPA PEOPLEdFU CALLdFOMdNJEEdAdTOQdOdIdLAQdPA PLURALdTAAdTAQdNDAA MY HOUSEdSHIQdYEUX",
  "dNGUAEdYUAENdYOQ SWIMMINGeCOVERdYUQdYUNdKEUXdPEUXdNJEE EPOCHdPUEdWUEdFEEdVEEdLUdMIdREUXdRAE",
  "dNGUAETdNGAdSHOdSHOQdFU REMEDYdNAdPIdLOQdKOdMENdMAdMAQdTEUdKIdMONdTENdFAQdGHOMcPHASE-F KAdU",
  "dKUdEEdREEdTAEdNYIdLAdRIIdRIEEdMEEEEdTAAdNDAAdNJAEMdMdSUUdSHIIdSIdSEUXdKYEEdKETdNUAEdNU",
  "dNJUAEdYOQdSHUdYAdNSHAdPEUXdNTEEdWUEdPEEdRUdNIdREUXdKENdNGKWAENdNGGAdSHOdPUAEdFOMdWAdLIdLOQ",
  "dKOdMBENdRENdMAdMOdMBAAdTETdKPAdSAMBAdVUEQ:16A40aMRO LETTER TAcNGIcYOcMIMcBAcDAcAcPHIcKHAI",
  "cHAOcDAIcCHUcKEAAEcOLcMAEMcNINcPAcOOcOcROcSHIcTHEAcEAcWAcEcKOcLANcLAcHAIcRIcTEK",
  ":16A60bDIGIT ZEROcONEcTWOcTHREEcFOURcFIVEcSIXcSEVENcEIGHTcNINE:16A6EbDANDAbDOUBLE DANDA",
  "aTANGSA LETTER OZcOCcOQcOXcAZcACcAQcAXcVZcVCcVQcVXcEZcECcEQcEXcIZcICcIQcIXcUZcUCcUQcUXcAWZ",
  "cAWCcAWQcAWXcUIZcUICcUIQcUIXcFINAL NGcLONG UEXcSHORT UEZdAWXcUECcUEZcUEQcUEXcUIUZcUIUCcUIUQ",
  "cUIUXcMZcMCcMQcMXcKAcKHAcGAcNGAcSAcYAcWAcPAcNYAcPHAcBAcMAcNAcHAcLAcHTAcTAcDAcRAcNHAcSHAcCA",
  "cTSAcGHAcHTTAcTHAcXAcFAcDHAcCHAcZA:16AC0bDIGIT ZEROcONEcTWOcTHREEcFOURcFIVEcSIXcSEVENcEIGHT",
  "cNINE:16AD0aBASSA VAH LETTER ENNIdKAdSEdFAdMBEdYIEdGAHdDHIIdKPAHdJOdHWAHdWAdZOdGBUdDOdCEdUWU",
  "dTOdBAdVUdYEINdPAdWADDAdAdOdOOdUdEEdEdI:16AF0cCOMBINING HIGH TONEdLOW TONEdMID TONE",
  "dLOW-MID TONEdHIGH-LOW TONEcFULL STOP:16B00aPAHAWH HMONG VOWEL KEEBdKEEVdKIBdKIVdKAUBdKAUV",
  "dKUBdKUVdKEBdKEVdKAIBdKAIVdKOOBdKOOVdKAWBdKAWVdKUABdKUAVdKOBdKOVdKIABdKIAVdKABdKAVdKWBdKWV",
  "dKAABdKAAVcCONSONANT VAUdNTSAUdLAUdHAUdNLAUdRAUdNKAUdQHAUdYAUdHLAUdMAUdCHAUdNCHAUdHNAUdPLHAU",
  "dNTHAUdNAUdAUdXAUdCAUcMARK CIM TUBeSOeKESeKHAVeSUAMeHOMeTAUMcSIGN VOS THOMeTSHAB CEEB",
  "dCIM CHEEMdVOS THIABeFEEMdXYEEM NTXIVeRHOeTOVeFAIBdVOS SEEVdMEEJ SUABdVOS NRUAdIB YAMdXAUS",
  "dCIM TSOV ROG:16B50cDIGIT ZEROdONEdTWOdTHREEdFOURdFIVEdSIXdSEVENdEIGHTdNINE",
  ":16B5BcNUMBER TENSdHUNDREDSdTEN THOUSANDSdMILLIONSdHUNDRED MILLIONSdTEN BILLIONSdTRILLIONS",
  ":16B63cSIGN VOS LUBdXYOOdHLIdTHIRD-STAGE HLIdZWJ THAJdHNUBdNQIGdXIABdNTUJdAVdTXHEEJ CEEV",
  "dMEEJ TSEEBdTAUdLOSdMUSdCIM HAIS LUS NTOG NTOGeCUAM TSHOOJeTXWVfCHWVePUB DAWBeNRES TOS",
  ":16B7DcCLAN SIGN TSHEEJeYEEGeLISeLAUJeXYOOJeKOOeHAWJeMUASeTHOJeTSABePHABeKHABeHAMeVAJeFAJ",
  "eYAJeTSWBeKWMeVWJ:16E40aMEDEFAIDRIN CAPITAL LETTER MdSdVdWdATIUdZdKPdPdTdGdFdIdKdAdJdEdBdCdU",
  "dYUdLdQdHPdNYdXdDdOEdNdRdOdAIdYbSMALL LETTER MdSdVdWdATIUdZdKPdPdTdGdFdIdKdAdJdEdBdCdUdYUdL",
  "dQdHPdNYdXdDdOEdNdRdOdAIdYbDIGIT ZEROcONEcTWOcTHREEcFOURcFIVEcSIXcSEVENcEIGHTcNINE",
  "bNUMBER TENcELEVENcTWELVEcTHIRTEENcFOURTEENcFIFTEENcSIXTEENcSEVENTEENcEIGHTEENcNINETEEN",
  "bDIGIT ONE ALTERNATE FORMcTWO ALTERNATE FORMcTHREE ALTERNATE FORMbCOMMAbFULL STOP",
  "bSYMBOL AIVAbEXCLAMATION OH:16F00aMIAO LETTER PAcBAcYI PAcPLAcMAcMHAcARCHAIC MAcFAcVAcVFAcTA",
  "cDAcYI TTAdTAcTTAcDDAcNAcNHAcYI NNAcARCHAIC NAcNNAcNNHAcLAcLYAcLHAcLHYAcTLHAcDLHAcTLHYA",
  "cDLHYAcKAcGAcYI KAcQAcQGAcNGAcNGHAcARCHAIC NGAcHAcXAcGHAcGHHAcTSSAcDZZAcNYAcNYHAcTSHAcDZHA",
  "cYI TSHAdDZHAcREFORMED TSHAcSHAcSSAcZHAcZSHAcTSAcDZAcYI TSAcSAcZAcZSAcZZAcZZSAcARCHAIC ZZA",
  "cZZYAcZZSYAcWAcAHcHHAcBRIcSYIcDZYIcTEcTSEcRTE:16F4FbSIGN CONSONANT MODIFIER BAR",
  "bLETTER NASALIZATIONbSIGN ASPIRATIONcREFORMED VOICINGdASPIRATIONbVOWEL SIGN AdAAdAHHdANdANG",
  "dOdOOdWOdWdEdENdENGdOEYdIdIAdIANdIANGdIOdIEdIIdIUdINGdUdUAdUANdUANGdUUdUEIdUNGdYdYIdAEdAEE",
  "dERRdROUNDED ERRdERdROUNDED ERdAIdEIdAUdOUdNdNGdUOGdYUIdOGdOERdVWdIGdEAdIONGdUI",
  ":16F8FbTONE RIGHTcTOP RIGHTcABOVEcBELOWbLETTER TONE-2cTONE-3cTONE-4cTONE-5cTONE-6cTONE-7",
  "cTONE-8cREFORMED TONE-1dTONE-2dTONE-4dTONE-5dTONE-6dTONE-8:16FE0aTANGUT ITERATION MARK",
  "aNUSHU ITERATION MARKaOLD CHINESE HOOK MARKcITERATION MARKaKHITAN SMALL SCRIPT FILLER",
  ":16FF0aVIETNAMESE ALTERNATE READING MARK CAeNHAY:18800aTANGUT COMPONENT-001bCOMPONENT-002",
  "bCOMPONENT-003bCOMPONENT-004bCOMPONENT-005bCOMPONENT-006bCOMPONENT-007bCOMPONENT-008",
  "bCOMPONENT-009bCOMPONENT-010bCOMPONENT-011bCOMPONENT-012bCOMPONENT-013bCOMPONENT-014",
  "bCOMPONENT-015bCOMPONENT-016bCOMPONENT-017bCOMPONENT-018bCOMPONENT-019bCOMPONENT-020",
  "bCOMPONENT-021bCOMPONENT-022bCOMPONENT-023bCOMPONENT-024bCOMPONENT-025bCOMPONENT-026",
  "bCOMPONENT-027bCOMPONENT-028bCOMPONENT-029bCOMPONENT-030bCOMPONENT-031bCOMPONENT-032",
  "bCOMPONENT-033bCOMPONENT-034bCOMPONENT-035bCOMPONENT-036bCOMPONENT-037bCOMPONENT-038",
  "bCOMPONENT-039bCOMPONENT-040bCOMPONENT-041bCOMPONENT-042bCOMPONENT-043bCOMPONENT-044",
  "bCOMPONENT-045bCOMPONENT-046bCOMPONENT-047bCOMPONENT-048bCOMPONENT-049bCOMPONENT-050",
  "bCOMPONENT-051bCOMPONENT-052bCOMPONENT-053bCOMPONENT-054bCOMPONENT-055bCOMPONENT-056",
  "bCOMPONENT-057bCOMPONENT-058bCOMPONENT-059bCOMPONENT-060bCOMPONENT-061bCOMPONENT-062",
  "bCOMPONENT-063bCOMPONENT-064bCOMPONENT-065bCOMPONENT-066bCOMPONENT-067bCOMPONENT-068",
  "bCOMPONENT-069bCOMPONENT-070bCOMPONENT-071bCOMPONENT-072bCOMPONENT-073bCOMPONENT-074",
  "bCOMPONENT-075bCOMPONENT-076bCOMPONENT-077bCOMPONENT-078bCOMPONENT-079bCOMPONENT-080",
  "bCOMPONENT-081bCOMPONENT-082bCOMPONENT-083bCOMPONENT-084bCOMPONENT-085bCOMPONENT-086",
  "bCOMPONENT-087bCOMPONENT-088bCOMPONENT-089bCOMPONENT-090bCOMPONENT-091bCOMPONENT-092",
  "bCOMPONENT-093bCOMPONENT-094bCOMPONENT-095bCOMPONENT-096bCOMPONENT-097bCOMPONENT-098",
  "bCOMPONENT-099bCOMPONENT-100bCOMPONENT-101bCOMPONENT-102bCOMPONENT-103bCOMPONENT-104",
  "bCOMPONENT-105bCOMPONENT-106bCOMPONENT-107bCOMPONENT-108bCOMPONENT-109bCOMPONENT-110",
  "bCOMPONENT-111bCOMPONENT-112bCOMPONENT-113bCOMPONENT-114bCOMPONENT-115bCOMPONENT-116",
  "bCOMPONENT-117bCOMPONENT-118bCOMPONENT-119bCOMPONENT-120bCOMPONENT-121bCOMPONENT-122",
  "bCOMPONENT-123bCOMPONENT-124bCOMPONENT-125bCOMPONENT-126bCOMPONENT-127bCOMPONENT-128",
  "bCOMPONENT-129bCOMPONENT-130bCOMPONENT-131bCOMPONENT-132bCOMPONENT-133bCOMPONENT-134",
  "bCOMPONENT-135bCOMPONENT-136bCOMPONENT-137bCOMPONENT-138bCOMPONENT-139bCOMPONENT-140",
  "bCOMPONENT-141bCOMPONENT-142bCOMPONENT-143bCOMPONENT-144bCOMPONENT-145bCOMPONENT-146",
  "bCOMPONENT-147bCOMPONENT-148bCOMPONENT-149bCOMPONENT-150bCOMPONENT-151bCOMPONENT-152",
  "bCOMPONENT-153bCOMPONENT-154bCOMPONENT-155bCOMPONENT-156bCOMPONENT-157bCOMPONENT-158",
  "bCOMPONENT-159bCOMPONENT-160bCOMPONENT-161bCOMPONENT-162bCOMPONENT-163bCOMPONENT-164",
  "bCOMPONENT-165bCOMPONENT-166bCOMPONENT-167bCOMPONENT-168bCOMPONENT-169bCOMPONENT-170",
  "bCOMPONENT-171bCOMPONENT-172bCOMPONENT-173bCOMPONENT-174bCOMPONENT-175bCOMPONENT-176",
  "bCOMPONENT-177bCOMPONENT-178bCOMPONENT-179bCOMPONENT-180bCOMPONENT-181bCOMPONENT-182",
  "bCOMPONENT-183bCOMPONENT-184bCOMPONENT-185bCOMPONENT-186bCOMPONENT-187bCOMPONENT-188",
  "bCOMPONENT-189bCOMPONENT-190bCOMPONENT-191bCOMPONENT-192bCOMPONENT-193bCOMPONENT-194",
  "bCOMPONENT-195bCOMPONENT-196bCOMPONENT-197bCOMPONENT-198bCOMPONENT-199bCOMPONENT-200",
  "bCOMPONENT-201bCOMPONENT-202bCOMPONENT-203bCOMPONENT-204bCOMPONENT-205bCOMPONENT-206",
  "bCOMPONENT-207bCOMPONENT-208bCOMPONENT-209bCOMPONENT-210bCOMPONENT-211bCOMPONENT-212",
  "bCOMPONENT-213bCOMPONENT-214bCOMPONENT-215bCOMPONENT-216bCOMPONENT-217bCOMPONENT-218",
  "bCOMPONENT-219bCOMPONENT-220bCOMPONENT-221bCOMPONENT-222bCOMPONENT-223bCOMPONENT-224",
  "bCOMPONENT-225bCOMPONENT-226bCOMPONENT-227bCOMPONENT-228bCOMPONENT-229bCOMPONENT-230",
  "bCOMPONENT-231bCOMPONENT-232bCOMPONENT-233bCOMPONENT-234bCOMPONENT-235bCOMPONENT-236",
  "bCOMPONENT-237bCOMPONENT-238bCOMPONENT-239bCOMPONENT-240bCOMPONENT-241bCOMPONENT-242",
  "bCOMPONENT-243bCOMPONENT-244bCOMPONENT-245bCOMPONENT-246bCOMPONENT-247bCOMPONENT-248",
  "bCOMPONENT-249bCOMPONENT-250bCOMPONENT-251bCOMPONENT-252bCOMPONENT-253bCOMPONENT-254",
  "bCOMPONENT-255bCOMPONENT-256bCOMPONENT-257bCOMPONENT-258bCOMPONENT-259bCOMPONENT-260",
  "bCOMPONENT-261bCOMPONENT-262bCOMPONENT-263bCOMPONENT-264bCOMPONENT-265bCOMPONENT-266",
  "bCOMPONENT-267bCOMPONENT-268bCOMPONENT-269bCOMPONENT-270bCOMPONENT-271bCOMPONENT-272",
  "bCOMPONENT-273bCOMPONENT-274bCOMPONENT-275bCOMPONENT-276bCOMPONENT-277bCOMPONENT-278",
  "bCOMPONENT-279bCOMPONENT-280bCOMPONENT-281bCOMPONENT-282bCOMPONENT-283bCOMPONENT-284",
  "bCOMPONENT-285bCOMPONENT-286bCOMPONENT-287bCOMPONENT-288bCOMPONENT-289bCOMPONENT-290",
  "bCOMPONENT-291bCOMPONENT-292bCOMPONENT-293bCOMPONENT-294bCOMPONENT-295bCOMPONENT-296",
  "bCOMPONENT-297bCOMPONENT-298bCOMPONENT-299bCOMPONENT-300bCOMPONENT-301bCOMPONENT-302",
  "bCOMPONENT-303bCOMPONENT-304bCOMPONENT-305bCOMPONENT-306bCOMPONENT-307bCOMPONENT-308",
  "bCOMPONENT-309bCOMPONENT-310bCOMPONENT-311bCOMPONENT-312bCOMPONENT-313bCOMPONENT-314",
  "bCOMPONENT-315bCOMPONENT-316bCOMPONENT-317bCOMPONENT-318bCOMPONENT-319bCOMPONENT-320",
  "bCOMPONENT-321bCOMPONENT-322bCOMPONENT-323bCOMPONENT-324bCOMPONENT-325bCOMPONENT-326",
  "bCOMPONENT-327bCOMPONENT-328bCOMPONENT-329bCOMPONENT-330bCOMPONENT-331bCOMPONENT-332",
  "bCOMPONENT-333bCOMPONENT-334bCOMPONENT-335bCOMPONENT-336bCOMPONENT-337bCOMPONENT-338",
  "bCOMPONENT-339bCOMPONENT-340bCOMPONENT-341bCOMPONENT-342bCOMPONENT-343bCOMPONENT-344",
  "bCOMPONENT-345bCOMPONENT-346bCOMPONENT-347bCOMPONENT-348bCOMPONENT-349bCOMPONENT-350",
  "bCOMPONENT-351bCOMPONENT-352bCOMPONENT-353bCOMPONENT-354bCOMPONENT-355bCOMPONENT-356",
  "bCOMPONENT-357bCOMPONENT-358bCOMPONENT-359bCOMPONENT-360bCOMPONENT-361bCOMPONENT-362",
  "bCOMPONENT-363bCOMPONENT-364bCOMPONENT-365bCOMPONENT-366bCOMPONENT-367bCOMPONENT-368",
  "bCOMPONENT-369bCOMPONENT-370bCOMPONENT-371bCOMPONENT-372bCOMPONENT-373bCOMPONENT-374",
  "bCOMPONENT-375bCOMPONENT-376bCOMPONENT-377bCOMPONENT-378bCOMPONENT-379bCOMPONENT-380",
  "bCOMPONENT-381bCOMPONENT-382bCOMPONENT-383bCOMPONENT-384bCOMPONENT-385bCOMPONENT-386",
  "bCOMPONENT-387bCOMPONENT-388bCOMPONENT-389bCOMPONENT-390bCOMPONENT-391bCOMPONENT-392",
  "bCOMPONENT-393bCOMPONENT-394bCOMPONENT-395bCOMPONENT-396bCOMPONENT-397bCOMPONENT-398",
  "bCOMPONENT-399bCOMPONENT-400bCOMPONENT-401bCOMPONENT-402bCOMPONENT-403bCOMPONENT-404",
  "bCOMPONENT-405bCOMPONENT-406bCOMPONENT-407bCOMPONENT-408bCOMPONENT-409bCOMPONENT-410",
  "bCOMPONENT-411bCOMPONENT-412bCOMPONENT-413bCOMPONENT-414bCOMPONENT-415bCOMPONENT-416",
  "bCOMPONENT-417bCOMPONENT-418bCOMPONENT-419bCOMPONENT-420bCOMPONENT-421bCOMPONENT-422",
  "bCOMPONENT-423bCOMPONENT-424bCOMPONENT-425bCOMPONENT-426bCOMPONENT-427bCOMPONENT-428",
  "bCOMPONENT-429bCOMPONENT-430bCOMPONENT-431bCOMPONENT-432bCOMPONENT-433bCOMPONENT-434",
  "bCOMPONENT-435bCOMPONENT-436bCOMPONENT-437bCOMPONENT-438bCOMPONENT-439bCOMPONENT-440",
  "bCOMPONENT-441bCOMPONENT-442bCOMPONENT-443bCOMPONENT-444bCOMPONENT-445bCOMPONENT-446",
  "bCOMPONENT-447bCOMPONENT-448bCOMPONENT-449bCOMPONENT-450bCOMPONENT-451bCOMPONENT-452",
  "bCOMPONENT-453bCOMPONENT-454bCOMPONENT-455bCOMPONENT-456bCOMPONENT-457bCOMPONENT-458",
  "bCOMPONENT-459bCOMPONENT-460bCOMPONENT-461bCOMPONENT-462bCOMPONENT-463bCOMPONENT-464",
  "bCOMPONENT-465bCOMPONENT-466bCOMPONENT-467bCOMPONENT-468bCOMPONENT-469bCOMPONENT-470",
  "bCOMPONENT-471bCOMPONENT-472bCOMPONENT-473bCOMPONENT-474bCOMPONENT-475bCOMPONENT-476",
  "bCOMPONENT-477bCOMPONENT-478bCOMPONENT-479bCOMPONENT-480bCOMPONENT-481bCOMPONENT-482",
  "bCOMPONENT-483bCOMPONENT-484bCOMPONENT-485bCOMPONENT-486bCOMPONENT-487bCOMPONENT-488",
  "bCOMPONENT-489bCOMPONENT-490bCOMPONENT-491bCOMPONENT-492bCOMPONENT-493bCOMPONENT-494",
  "bCOMPONENT-495bCOMPONENT-496bCOMPONENT-497bCOMPONENT-498bCOMPONENT-499bCOMPONENT-500",
  "bCOMPONENT-501bCOMPONENT-502bCOMPONENT-503bCOMPONENT-504bCOMPONENT-505bCOMPONENT-506",
  "bCOMPONENT-507bCOMPONENT-508bCOMPONENT-509bCOMPONENT-510bCOMPONENT-511bCOMPONENT-512",
  "bCOMPONENT-513bCOMPONENT-514bCOMPONENT-515bCOMPONENT-516bCOMPONENT-517bCOMPONENT-518",
  "bCOMPONENT-519bCOMPONENT-520bCOMPONENT-521bCOMPONENT-522bCOMPONENT-523bCOMPONENT-524",
  "bCOMPONENT-525bCOMPONENT-526bCOMPONENT-527bCOMPONENT-528bCOMPONENT-529bCOMPONENT-530",
  "bCOMPONENT-531bCOMPONENT-532bCOMPONENT-533bCOMPONENT-534bCOMPONENT-535bCOMPONENT-536",
  "bCOMPONENT-537bCOMPONENT-538bCOMPONENT-539bCOMPONENT-540bCOMPONENT-541bCOMPONENT-542",
  "bCOMPONENT-543bCOMPONENT-544bCOMPONENT-545bCOMPONENT-546bCOMPONENT-547bCOMPONENT-548",
  "bCOMPONENT-549bCOMPONENT-550bCOMPONENT-551bCOMPONENT-552bCOMPONENT-553bCOMPONENT-554",
  "bCOMPONENT-555bCOMPONENT-556bCOMPONENT-557bCOMPONENT-558bCOMPONENT-559bCOMPONENT-560",
  "bCOMPONENT-561bCOMPONENT-562bCOMPONENT-563bCOMPONENT-564bCOMPONENT-565bCOMPONENT-566",
  "bCOMPONENT-567bCOMPONENT-568bCOMPONENT-569bCOMPONENT-570bCOMPONENT-571bCOMPONENT-572",
  "bCOMPONENT-573bCOMPONENT-574bCOMPONENT-575bCOMPONENT-576bCOMPONENT-577bCOMPONENT-578",
  "bCOMPONENT-579bCOMPONENT-580bCOMPONENT-581bCOMPONENT-582bCOMPONENT-583bCOMPONENT-584",
  "bCOMPONENT-585bCOMPONENT-586bCOMPONENT-587bCOMPONENT-588bCOMPONENT-589bCOMPONENT-590",
  "bCOMPONENT-591bCOMPONENT-592bCOMPONENT-593bCOMPONENT-594bCOMPONENT-595bCOMPONENT-596",
  "bCOMPONENT-597bCOMPONENT-598bCOMPONENT-599bCOMPONENT-600bCOMPONENT-601bCOMPONENT-602",
  "bCOMPONENT-603bCOMPONENT-604bCOMPONENT-605bCOMPONENT-606bCOMPONENT-607bCOMPONENT-608",
  "bCOMPONENT-609bCOMPONENT-610bCOMPONENT-611bCOMPONENT-612bCOMPONENT-613bCOMPONENT-614",
  "bCOMPONENT-615bCOMPONENT-616bCOMPONENT-617bCOMPONENT-618bCOMPONENT-619bCOMPONENT-620",
  "bCOMPONENT-621bCOMPONENT-622bCOMPONENT-623bCOMPONENT-624bCOMPONENT-625bCOMPONENT-626",
  "bCOMPONENT-627bCOMPONENT-628bCOMPONENT-629bCOMPONENT-630bCOMPONENT-631bCOMPONENT-632",
  "bCOMPONENT-633bCOMPONENT-634bCOMPONENT-635bCOMPONENT-636bCOMPONENT-637bCOMPONENT-638",
  "bCOMPONENT-639bCOMPONENT-640bCOMPONENT-641bCOMPONENT-642bCOMPONENT-643bCOMPONENT-644",
  "bCOMPONENT-645bCOMPONENT-646bCOMPONENT-647bCOMPONENT-648bCOMPONENT-649bCOMPONENT-650",
  "bCOMPONENT-651bCOMPONENT-652bCOMPONENT-653bCOMPONENT-654bCOMPONENT-655bCOMPONENT-656",
  "bCOMPONENT-657bCOMPONENT-658bCOMPONENT-659bCOMPONENT-660bCOMPONENT-661bCOMPONENT-662",
  "bCOMPONENT-663bCOMPONENT-664bCOMPONENT-665bCOMPONENT-666bCOMPONENT-667bCOMPONENT-668",
  "bCOMPONENT-669bCOMPONENT-670bCOMPONENT-671bCOMPONENT-672bCOMPONENT-673bCOMPONENT-674",
  "bCOMPONENT-675bCOMPONENT-676bCOMPONENT-677bCOMPONENT-678bCOMPONENT-679bCOMPONENT-680",
  "bCOMPONENT-681bCOMPONENT-682bCOMPONENT-683bCOMPONENT-684bCOMPONENT-685bCOMPONENT-686",
  "bCOMPONENT-687bCOMPONENT-688bCOMPONENT-689bCOMPONENT-690bCOMPONENT-691bCOMPONENT-692",
  "bCOMPONENT-693bCOMPONENT-694bCOMPONENT-695bCOMPONENT-696bCOMPONENT-697bCOMPONENT-698",
  "bCOMPONENT-699bCOMPONENT-700bCOMPONENT-701bCOMPONENT-702bCOMPONENT-703bCOMPONENT-704",
  "bCOMPONENT-705bCOMPONENT-706bCOMPONENT-707bCOMPONENT-708bCOMPONENT-709bCOMPONENT-710",
  "bCOMPONENT-711bCOMPONENT-712bCOMPONENT-713bCOMPONENT-714bCOMPONENT-715bCOMPONENT-716",
  "bCOMPONENT-717bCOMPONENT-718bCOMPONENT-719bCOMPONENT-720bCOMPONENT-721bCOMPONENT-722",
  "bCOMPONENT-723bCOMPONENT-724bCOMPONENT-725bCOMPONENT-726bCOMPONENT-727bCOMPONENT-728",
  "bCOMPONENT-729bCOMPONENT-730bCOMPONENT-731bCOMPONENT-732bCOMPONENT-733bCOMPONENT-734",
  "bCOMPONENT-735bCOMPONENT-736bCOMPONENT-737bCOMPONENT-738bCOMPONENT-739bCOMPONENT-740",
  "bCOMPONENT-741bCOMPONENT-742bCOMPONENT-743bCOMPONENT-744bCOMPONENT-745bCOMPONENT-746",
  "bCOMPONENT-747bCOMPONENT-748bCOMPONENT-749bCOMPONENT-750bCOMPONENT-751bCOMPONENT-752",
  "bCOMPONENT-753bCOMPONENT-754bCOMPONENT-755bCOMPONENT-756bCOMPONENT-757bCOMPONENT-758",
  "bCOMPONENT-759bCOMPONENT-760bCOMPONENT-761bCOMPONENT-762bCOMPONENT-763bCOMPONENT-764",
  "bCOMPONENT-765bCOMPONENT-766bCOMPONENT-767bCOMPONENT-768:1AFF0aKATAKANA LETTER MINNAN TONE-2",
  "dTONE-3dTONE-4dTONE-5:1AFF5dTONE-7dTONE-8dNASALIZED TONE-1eTONE-2eTONE-3eTONE-4eTONE-5",
  ":1AFFDeTONE-7eTONE-8:1B000cARCHAIC EaHIRAGANA LETTER ARCHAIC YEaHENTAIGANA LETTER A-1cA-2",
  "cA-3cA-WOcI-1cI-2cI-3cI-4cU-1cU-2cU-3cU-4cU-5cE-2cE-3cE-4cE-5cE-6cO-1cO-2cO-3cKA-1cKA-2cKA-3",
  "cKA-4cKA-5cKA-6cKA-7cKA-8cKA-9cKA-10cKA-11cKA-KEcKI-1cKI-2cKI-3cKI-4cKI-5cKI-6cKI-7cKI-8",
  "cKU-1cKU-2cKU-3cKU-4cKU-5cKU-6cKU-7cKE-1cKE-2cKE-3cKE-4cKE-5cKE-6cKO-1cKO-2cKO-3cKO-KIcSA-1",
  "cSA-2cSA-3cSA-4cSA-5cSA-6cSA-7cSA-8cSI-1cSI-2cSI-3cSI-4cSI-5cSI-6cSU-1cSU-2cSU-3cSU-4cSU-5",
  "cSU-6cSU-7cSU-8cSE-1cSE-2cSE-3cSE-4cSE-5cSO-1cSO-2cSO-3cSO-4cSO-5cSO-6cSO-7cTA-1cTA-2cTA-3",
  "cTA-4cTI-1cTI-2cTI-3cTI-4cTI-5cTI-6cTI-7cTU-1cTU-2cTU-3cTU-4cTU-TOcTE-1cTE-2cTE-3cTE-4cTE-5",
  "cTE-6cTE-7cTE-8cTE-9cTO-1cTO-2cTO-3cTO-4cTO-5cTO-6cTO-RAcNA-1cNA-2cNA-3cNA-4cNA-5cNA-6cNA-7",
  "cNA-8cNA-9cNI-1cNI-2cNI-3cNI-4cNI-5cNI-6cNI-7cNI-TEcNU-1cNU-2cNU-3cNE-1cNE-2cNE-3cNE-4cNE-5",
  "cNE-6cNE-KOcNO-1cNO-2cNO-3cNO-4cNO-5cHA-1cHA-2cHA-3cHA-4cHA-5cHA-6cHA-7cHA-8cHA-9cHA-10",
  "cHA-11cHI-1cHI-2cHI-3cHI-4cHI-5cHI-6cHI-7cHU-1cHU-2cHU-3cHE-1cHE-2cHE-3cHE-4cHE-5cHE-6cHE-7",
  "cHO-1cHO-2cHO-3cHO-4cHO-5cHO-6cHO-7cHO-8cMA-1cMA-2cMA-3cMA-4cMA-5cMA-6cMA-7cMI-1cMI-2cMI-3",
  "cMI-4cMI-5cMI-6cMI-7cMU-1cMU-2cMU-3cMU-4cME-1cME-2cME-MAcMO-1cMO-2cMO-3cMO-4cMO-5cMO-6cYA-1",
  "cYA-2cYA-3cYA-4cYA-5cYA-YOcYU-1cYU-2cYU-3cYU-4cYO-1cYO-2cYO-3cYO-4cYO-5cYO-6cRA-1cRA-2cRA-3",
  "cRA-4cRI-1cRI-2cRI-3cRI-4cRI-5cRI-6cRI-7cRU-1cRU-2cRU-3cRU-4cRU-5cRU-6cRE-1cRE-2cRE-3cRE-4",
  "cRO-1cRO-2cRO-3cRO-4cRO-5cRO-6cWA-1cWA-2cWA-3cWA-4cWA-5cWI-1cWI-2cWI-3cWI-4cWI-5cWE-1cWE-2",
  "cWE-3cWE-4cWO-1cWO-2cWO-3cWO-4cWO-5cWO-6cWO-7cN-MU-MO-1cN-MU-MO-2aHIRAGANA LETTER ARCHAIC WU",
  "aKATAKANA LETTER ARCHAIC YIdYEdWU:1B150aHIRAGANA LETTER SMALL WIdWEdWO",
  ":1B164aKATAKANA LETTER SMALL WIdWEdWOdN:1BC00aDUPLOYAN LETTER HcXcPcTcFcKcLcBcDcVcGcRcP N",
  "cD ScF NcK McR ScTHcSLOAN DHcDHcKKcSLOAN JcHLcLHcRHcMcNcJcScM NcN McJ McS JcM WITH DOT",
  "cN WITH DOTcJ WITH DOTeDOTS INSIDE AND ABOVEcS WITH DOTfBELOWcM ScN ScJ ScS ScM N ScN M S",
  "cJ M ScS J ScJ S WITH DOTdNeScS TeRdPeRcT SdR ScWcWHcW RcS NdMcK R ScG R ScS KeRcAcSLOAN OW",
  "cOAcOcAOUcIcEcIEcSHORT IcUIcEEcSLOAN EHcROMANIAN IcSLOAN EEcLONG IcYEcUcEUcXWcU NcLONG U",
  "cROMANIAN UcUHcSLOAN UcOOHcOWcOUcWAcWOcWIcWEIcWOWcNASAL UdOdIdAcPERNIN ANdAMcSLOAN ENdANdON",
  "cVOCALIC M:1BC70bAFFIX LEFT HORIZONTAL SECANTcMID HORIZONTAL SECANTcRIGHT HORIZONTAL SECANT",
  "cLOW VERTICAL SECANTcMID VERTICAL SECANTcHIGH VERTICAL SECANTcATTACHED SECANT",
  "dLEFT-TO-RIGHT SECANTdTANGENTdTAILdE HOOKdI HOOKdTANGENT HOOK:1BC80cHIGH ACUTEdTIGHT ACUTE",
  "dGRAVEdLONG GRAVEdDOTdCIRCLEdLINEdWAVEdVERTICAL:1BC90cLOW ACUTEdTIGHT ACUTEdGRAVEdLONG GRAVE",
  "dDOTdCIRCLEdLINEdWAVEdVERTICALdARROW:1BC9CbSIGN O WITH CROSSbTHICK LETTER SELECTOR",
  "bDOUBLE MARKbPUNCTUATION CHINOOK FULL STOPaSHORTHAND FORMAT LETTER OVERLAP",
  "cCONTINUING OVERLAPcDOWN STEPcUP STEP",
  ":1CF00aZNAMENNY COMBINING MARK GORAZDO NIZKO S KRYZHEM ON LEFTdNIZKO S KRYZHEM ON LEFT",
  "dTSATA ON LEFTdGORAZDO NIZKO ON LEFTdNIZKO ON LEFTdSREDNE ON LEFTdMALO POVYSHE ON LEFT",
  "dPOVYSHE ON LEFTdVYSOKO ON LEFTdMALO POVYSHE S KHOKHLOM ON LEFTdPOVYSHE S KHOKHLOM ON LEFT",
  "dVYSOKO S KHOKHLOM ON LEFTdGORAZDO NIZKO S KRYZHEM ON RIGHTdNIZKO S KRYZHEM ON RIGHT",
  "dTSATA ON RIGHTdGORAZDO NIZKO ON RIGHTdNIZKO ON RIGHTdSREDNE ON RIGHTdMALO POVYSHE ON RIGHT",
  "dPOVYSHE ON RIGHTdVYSOKO ON RIGHTdMALO POVYSHE S KHOKHLOM ON RIGHT",
  "dPOVYSHE S KHOKHLOM ON RIGHTdVYSOKO S KHOKHLOM ON RIGHTdTSATA S KRYZHEM",
  "dMALO POVYSHE S KRYZHEMdSTRANNO MALO POVYSHEdPOVYSHE S KRYZHEMeSTRANNOdVYSOKO S KRYZHEM",
  "dMALO POVYSHE STRANNOdGORAZDO VYSOKOdZELOdONdRAVNOdTIKHAYAdBORZAYAdUDARKAdPODVERTKAdLOMKA",
  "dKUPNAYAdKACHKAdZEVOKdSKOBAdRAZSEKAdKRYZH ON LEFT:1CF30cTONAL RANGE MARK MRACHNOfSVETLO",
  "fTRESVETLOcMARK ZADERZHKAdDEMESTVENNY ZADERZHKAdOTSECHKAdPODCHASHIEeWITH VERTICAL STROKE",
  "dCHASHKAePOLNAYAdOBLACHKOdSOROCHYA NOZHKAdTOCHKAdDVOETOCHIEcATTACHING VERTICAL OMET",
  "cMARK CURVED OMETdKRYZHcLOWER TONAL RANGE INDICATORbPRIZNAK MODIFIER LEVEL-2dLEVEL-3",
  "dDIRECTION FLIPdKRYZHdROG:1CF50bNEUME KRYUKdTIKHYcPARAKLITcDVA V CHELNUcKLYUCHcZANOZHEK",
  "cSTOPITSAdS OCHKOMcPEREVODKAdNEPOSTOYANNAYAcSTOPITSA WITH SOROCHYA NOZHKAcCHELYUSTKAcPALKA",
  "cZAPYATAYAcGOLUBCHIK BORZYdTIKHYdMRACHNYdSVETLYdTRESVETLYcVRAKHIYA PROSTAYAdMRACHNAYA",
  "dSVETLAYAdTRESVETLAYAdKLYUCHEVAYA PROSTAYAeMRACHNAYAeSVETLAYAeTRESVETLAYAcDOUBLE ZAPYATAYA",
  "cREVERSED CHELYUSTKAcDERBITSAcKHAMILOcCHASHKAcPODCHASHIEcSKAMEYTSA MRACHNAYAdSVETLAYA",
  "dTRESVETLAYAdTIKHAYAcDEMESTVENNY KLYUCHcSKAMEYTSA KLYUCHEVAYA SVETLAYAdKLYUCHENEPOSTOYANNAYA",
  "dKLYUCHEVAYA TIKHAYAdDVOECHELNAYA PROSTAYAeSVETLAYAeNEPOSTOYANNAYAeKLYUCHEVAYAcSLOZHITIE",
  "dS ZAPYATOYdZAKRYTOEdS KRYZHEMcKRYZHcROGcFITAcKOBYLAcZMEYTSAcSTATYAdS ZAPYATOYeKRYZHEM",
  "eZAPYATOY I KRYZHEMeKRYZHEM I ZAPYATOYdZAKRYTAYAeS ZAPYATOYdS ROGOMeDVUMYA ZAPYATYMI",
  "eZAPYATOY I PODCHASHIEMcPOLKULIZMYcSTATYA NEPOSTOYANNAYAcSTRELA PROSTAYAdMRACHNOTIKHAYA",
  "dKRYZHEVAYAdPOLUPOVODNAYAdPOVODNAYAdNEPOSTOYANNAYAdKLYUCHEPOVODNAYAdKLYUCHENEPOSTOYANNAYA",
  "dTIKHAYA PUTNAYAdDVOECHELNAYAdDVOECHELNOKRYZHEVAYAdDVOECHELNOPOVODNAYA",
  "dDVOECHELNAYA KLYUCHEVAYAdDVOECHELNOPOVODNAYA KLYUCHEVAYAdGROMNAYA WITH SINGLE ZAPYATAYA",
  "dGROMOPOVODNAYA WITH SINGLE ZAPYATAYAdGROMNAYAdGROMOPOVODNAYAeWITH DOUBLE ZAPYATAYA",
  "dGROMOKRYZHEVAYAePOVODNAYAcMECHIKdPOVODNYdKLYUCHEVOYdKLYUCHEPOVODNYdKLYUCHENEPOSTOYANNY",
  "cSTRELA TRYASOGLASNAYAdTRYASOPOVODNAYAdTRYASOSTRELNAYAcOSOKAdSVETLAYAdTRESVETLAYA",
  "dKRYUKOVAYA SVETLAYAdKLYUCHEVAYA SVETLAYAeNEPOSTOYANNAYAcSTRELA KRYUKOVAYAePOVODNAYA",
  "eGROMNAYA WITH SINGLE ZAPYATAYAeGROMOPOVODNAYA WITH SINGLE ZAPYATAYAeGROMNAYAeGROMOPOVODNAYA",
  "fWITH DOUBLE ZAPYATAYAeGROMOKRYZHEVAYAfPOVODNAYAeTRYASKAcKUFISMAcOBLAKOcDUDAcNEMKAcPAUK",
  ":1D000aBYZANTINE MUSICAL SYMBOL PSILIdDASEIAdPERISPOMENIdOXEIA EKFONITIKONeDIPLI",
  "dVAREIA EKFONITIKONeDIPLIdKATHISTIdSYRMATIKIdPARAKLITIKIdYPOKRISISeDIPLIdKREMASTI",
  "dAPESO EKFONITIKONdEXO EKFONITIKONdTELEIAdKENTIMATAdAPOSTROFOSeDIPLIdSYNEVMAdTHITA",
  "dOLIGON ARCHAIONdGORGON ARCHAIONdPSILONdCHAMILONdVATHYdISON ARCHAIONdKENTIMA ARCHAION",
  "dKENTIMATA ARCHAIONdSAXIMATAdPARICHONdSTAVROS APODEXIAdOXEIAI ARCHAIONdVAREIAI ARCHAION",
  "dAPODERMA ARCHAIONdAPOTHEMAdKLASMAdREVMAdPIASMA ARCHAIONdTINAGMAdANATRICHISMAdSEISMA",
  "dSYNAGMA ARCHAIONeMETA STAVROUdOYRANISMA ARCHAIONdTHEMAdLEMOIdDYOdTRIAdTESSERAdKRATIMATA",
  "dAPESO EXO NEOdFTHORA ARCHAIONdIMIFTHORAdTROMIKON ARCHAIONdKATAVA TROMIKONdPELASTON",
  "dPSIFISTONdKONTEVMAdCHOREVMA ARCHAIONdRAPISMAdPARAKALESMA ARCHAIONdPARAKLITIKI ARCHAION",
  "dICHADINdNANAdPETASMAdKONTEVMA ALLOdTROMIKON ALLOdSTRAGGISMATAdGRONTHISMATAdISON NEO",
  "dOLIGON NEOdOXEIA NEOdPETASTIdKOUFISMAdPETASTOKOUFISMAdKRATIMOKOUFISMAdPELASTON NEO",
  "dKENTIMATA NEO ANOdKENTIMA NEO ANOdYPSILIdAPOSTROFOS NEOdAPOSTROFOI SYNDESMOS NEOdYPORROI",
  "dKRATIMOYPORROONdELAFRONdCHAMILIdMIKRON ISONdVAREIA NEOdPIASMA NEOdPSIFISTON NEOdOMALON",
  "dANTIKENOMAdLYGISMAdPARAKLITIKI NEOdPARAKALESMA NEOdETERON PARAKALESMAdKYLISMA",
  "dANTIKENOKYLISMAdTROMIKON NEOdEKSTREPTONdSYNAGMA NEOdSYRMAdCHOREVMA NEOdEPEGERMAdSEISMA NEO",
  "dXIRON KLASMAdTROMIKOPSIFISTONdPSIFISTOLYGISMAdTROMIKOLYGISMAdTROMIKOPARAKALESMA",
  "dPSIFISTOPARAKALESMAdTROMIKOSYNAGMAdPSIFISTOSYNAGMAdGORGOSYNTHETONdARGOSYNTHETON",
  "dETERON ARGOSYNTHETONdOYRANISMA NEOdTHEMATISMOS ESOeEXOdTHEMA APLOUNdTHES KAI APOTHES",
  "dKATAVASMAdENDOFONONdYFEN KATOeANOdSTAVROSdKLASMA ANOdDIPLI ARCHAIONdKRATIMA ARCHAIONeALLO",
  "eNEOdAPODERMA NEOdAPLIdDIPLIdTRIPLIdTETRAPLIdKORONISdLEIMMA ENOS CHRONOUeDYO CHRONON",
  "eTRION CHRONONeTESSARON CHRONONeIMISEOS CHRONOUdGORGON NEO ANOePARESTIGMENON ARISTERAfDEXIA",
  "dDIGORGONePARESTIGMENON ARISTERA KATOgANOfDEXIAdTRIGORGONdARGONdIMIDIARGONdDIARGON",
  "dAGOGI POLI ARGIeARGOTERIeARGIeMETRIAeMESIeGORGIeGORGOTERIePOLI GORGIdMARTYRIA PROTOS ICHOS",
  "eALLI PROTOS ICHOSeDEYTEROS ICHOSeALLI DEYTEROS ICHOSeTRITOS ICHOSeTRIFONIASeTETARTOS ICHOS",
  "fLEGETOS ICHOSeLEGETOS ICHOSePLAGIOS ICHOSdISAKIA TELOUS ICHIMATOS",
  "dAPOSTROFOI TELOUS ICHIMATOSdFANEROSIS TETRAFONIASeMONOFONIASeDIFONIASdMARTYRIA VARYS ICHOS",
  "ePROTOVARYS ICHOSePLAGIOS TETARTOS ICHOSdGORTHMIKON N APLOUNfDIPLOUNdENARXIS KAI FTHORA VOU",
  "dIMIFONONdIMIFTHORONdFTHORA ARCHAION DEYTEROU ICHOUeDIATONIKI PAfNANAeNAOS ICHOS",
  "eDIATONIKI DIeSKLIRON DIATONON DIeDIATONIKI KEfZOfNI KATOgANOeMALAKON CHROMA DIFONIAS",
  "gMONOFONIASdFHTORA SKLIRON CHROMA VASISdFTHORA SKLIRON CHROMA SYNAFIeNENANOdCHROA ZYGOS",
  "eKLITONeSPATHIdFTHORA I YFESIS TETARTIMORIONeENARMONIOS ANTIFONIAdYFESIS TRITIMORION",
  "dDIESIS TRITIMORIONeTETARTIMORIONeAPLI DYO DODEKATAeMONOGRAMMOS TESSERA DODEKATA",
  "eDIGRAMMOS EX DODEKATAeTRIGRAMMOS OKTO DODEKATAdYFESIS APLI DYO DODEKATA",
  "eMONOGRAMMOS TESSERA DODEKATAeDIGRAMMOS EX DODEKATAeTRIGRAMMOS OKTO DODEKATAdGENIKI DIESIS",
  "eYFESISdDIASTOLI APLI MIKRIfMEGALIeDIPLIeTHESEOSdSIMANSIS THESEOSfDISIMOUfTRISIMOU",
  "fTETRASIMOUeARSEOSfDISIMOUfTRISIMOUfTETRASIMOUdDIGRAMMA GGdDIFTOGGOS OUdSTIGMAdARKTIKO PA",
  "eVOUeGAeDIeKEeZOeNIdKENTIMATA NEO MESOdKENTIMA NEO MESOdKENTIMATA NEO KATOdKENTIMA NEO KATO",
  "dKLASMA KATOdGORGON NEO KATO:1D100aMUSICAL SYMBOL SINGLE BARLINEcDOUBLE BARLINE",
  "cFINAL BARLINEcREVERSE FINAL BARLINEcDASHED BARLINEcSHORT BARLINEcLEFT REPEAT SIGN",
  "cRIGHT REPEAT SIGNcREPEAT DOTScDAL SEGNOcDA CAPOcSEGNOcCODAcREPEATED FIGURE-1dFIGURE-2",
  "dFIGURE-3cFERMATAdBELOWcBREATH MARKcCAESURAcBRACEcBRACKETcONE-LINE STAFFcTWO-LINE STAFF",
  "cTHREE-LINE STAFFcFOUR-LINE STAFFcFIVE-LINE STAFFcSIX-LINE STAFFcSIX-STRING FRETBOARD",
  "cFOUR-STRING FRETBOARDcG CLEFeOTTAVA ALTAfBASSAcC CLEFcF CLEFeOTTAVA ALTAfBASSAcDRUM CLEF-1",
  "dCLEF-2:1D129cMULTIPLE MEASURE RESTcDOUBLE SHARPdFLATcFLAT UPdDOWNcNATURAL UPdDOWNcSHARP UP",
  "dDOWNcQUARTER TONE SHARPeFLATcCOMMON TIMEcCUT TIMEcOTTAVA ALTAdBASSAcQUINDICESIMA ALTAdBASSA",
  "cMULTI RESTcWHOLE RESTcHALF RESTcQUARTER RESTcEIGHTH RESTcSIXTEENTH RESTcTHIRTY-SECOND REST",
  "cSIXTY-FOURTH RESTcONE HUNDRED TWENTY-EIGHTH RESTcX NOTEHEADcPLUS NOTEHEADcCIRCLE X NOTEHEAD",
  "cSQUARE NOTEHEAD WHITEeBLACKcTRIANGLE NOTEHEAD UP WHITEfBLACKeLEFT WHITEfBLACKeRIGHT WHITE",
  "fBLACKeDOWN WHITEfBLACKeUP RIGHT WHITEgBLACKcMOON NOTEHEAD WHITEeBLACK",
  "cTRIANGLE-ROUND NOTEHEAD DOWN WHITEfBLACKcPARENTHESIS NOTEHEADcVOID NOTEHEADcNOTEHEAD BLACK",
  "cNULL NOTEHEADcCLUSTER NOTEHEAD WHITEeBLACKcBREVEcWHOLE NOTEcHALF NOTEcQUARTER NOTE",
  "cEIGHTH NOTEcSIXTEENTH NOTEcTHIRTY-SECOND NOTEcSIXTY-FOURTH NOTE",
  "cONE HUNDRED TWENTY-EIGHTH NOTEcCOMBINING STEMdSPRECHGESANG STEMdTREMOLO-1dTREMOLO-2",
  "dTREMOLO-3cFINGERED TREMOLO-1dTREMOLO-2dTREMOLO-3cCOMBINING AUGMENTATION DOTdFLAG-1dFLAG-2",
  "dFLAG-3dFLAG-4dFLAG-5cBEGIN BEAMcEND BEAMcBEGIN TIEcEND TIEcBEGIN SLURcEND SLURcBEGIN PHRASE",
  "cEND PHRASEcCOMBINING ACCENTdSTACCATOdTENUTOdSTACCATISSIMOdMARCATOdMARCATO-STACCATO",
  "dACCENT-STACCATOdLOUREcARPEGGIATO UPdDOWNcCOMBINING DOITdRIPdFLIPdSMEARdBENDdDOUBLE TONGUE",
  "dTRIPLE TONGUEcRINFORZANDOcSUBITOcZcPIANOcMEZZOcFORTEcCRESCENDOcDECRESCENDOcGRACE NOTE SLASH",
  "eNO SLASHcTRcTURNcINVERTED TURNcTURN SLASHdUPcORNAMENT STROKE-1dSTROKE-2dSTROKE-3dSTROKE-4",
  "dSTROKE-5dSTROKE-6dSTROKE-7dSTROKE-8dSTROKE-9dSTROKE-10dSTROKE-11cHAUPTSTIMMEcNEBENSTIMME",
  "cEND OF STIMMEcDEGREE SLASHcCOMBINING DOWN BOWdUP BOWdHARMONICdSNAP PIZZICATOcPEDAL MARK",
  "dUP MARKcHALF PEDAL MARKcGLISSANDO UPdDOWNcWITH FINGERNAILScDAMPdALLcMAXIMAcLONGAcBREVIS",
  "cSEMIBREVIS WHITEdBLACKcMINIMAdBLACKcSEMIMINIMA WHITEdBLACKcFUSA WHITEdBLACK",
  "cLONGA PERFECTA RESTdIMPERFECTA RESTcBREVIS RESTcSEMIBREVIS RESTcMINIMA RESTcSEMIMINIMA REST",
  "cTEMPUS PERFECTUM CUM PROLATIONE PERFECTAgIMPERFECTAgPERFECTA DIMINUTION-1",
  "dIMPERFECTUM CUM PROLATIONE PERFECTAgIMPERFECTAhDIMINUTION-1hDIMINUTION-2hDIMINUTION-3cCROIX",
  "cGREGORIAN C CLEFdF CLEFcSQUARE BcVIRGAcPODATUScCLIVIScSCANDICUScCLIMACUScTORCULUScPORRECTUS",
  "dFLEXUScSCANDICUS FLEXUScTORCULUS RESUPINUScPES SUBPUNCTIScKIEVAN C CLEFdEND OF PIECE",
  "dFINAL NOTEdRECITATIVE MARKdWHOLE NOTEdHALF NOTEdQUARTER NOTE STEM DOWNgUP",
  "dEIGHTH NOTE STEM DOWNgUPdFLAT SIGNcSORIcKORON:1D200aGREEK VOCAL NOTATION SYMBOL-1dSYMBOL-2",
  "dSYMBOL-3dSYMBOL-4dSYMBOL-5dSYMBOL-6dSYMBOL-7dSYMBOL-8dSYMBOL-9dSYMBOL-10dSYMBOL-11",
  "dSYMBOL-12dSYMBOL-13dSYMBOL-14dSYMBOL-15dSYMBOL-16dSYMBOL-17dSYMBOL-18dSYMBOL-19dSYMBOL-20",
  "dSYMBOL-21dSYMBOL-22dSYMBOL-23dSYMBOL-24dSYMBOL-50dSYMBOL-51dSYMBOL-52dSYMBOL-53dSYMBOL-54",
  "bINSTRUMENTAL NOTATION SYMBOL-1dSYMBOL-2dSYMBOL-4dSYMBOL-5dSYMBOL-7dSYMBOL-8dSYMBOL-11",
  "dSYMBOL-12dSYMBOL-13dSYMBOL-14dSYMBOL-17dSYMBOL-18dSYMBOL-19dSYMBOL-23dSYMBOL-24dSYMBOL-25",
  "dSYMBOL-26dSYMBOL-27dSYMBOL-29dSYMBOL-30dSYMBOL-32dSYMBOL-36dSYMBOL-37dSYMBOL-38dSYMBOL-39",
  "dSYMBOL-40dSYMBOL-42dSYMBOL-43dSYMBOL-45dSYMBOL-47dSYMBOL-48dSYMBOL-49dSYMBOL-50dSYMBOL-51",
  "dSYMBOL-52dSYMBOL-53dSYMBOL-54aCOMBINING GREEK MUSICAL TRISEMEdTETRASEMEdPENTASEME",
  "aGREEK MUSICAL LEIMMA:1D2E0aMAYAN NUMERAL ZEROcONEcTWOcTHREEcFOURcFIVEcSIXcSEVENcEIGHTcNINE",
  "cTENcELEVENcTWELVEcTHIRTEENcFOURTEENcFIFTEENcSIXTEENcSEVENTEENcEIGHTEENcNINETEEN",
  ":1D300aMONOGRAM FOR EARTHaDIGRAM FOR HEAVENLY EARTHcHUMAN EARTHcEARTHLY HEAVENdHUMANcEARTH",
  "aTETRAGRAM FOR CENTREcFULL CIRCLEcMIREDcBARRIERcKEEPING SMALLcCONTRARIETYcASCENTcOPPOSITION",
  "cBRANCHING OUTcDEFECTIVENESS OR DISTORTIONcDIVERGENCEcYOUTHFULNESScINCREASEcPENETRATION",
  "cREACHcCONTACTcHOLDING BACKcWAITINGcFOLLOWINGcADVANCEcRELEASEcRESISTANCEcEASEcJOYcCONTENTION",
  "cENDEAVOURcDUTIEScCHANGEcDECISIVENESScBOLD RESOLUTIONcPACKINGcLEGIONcCLOSENESScKINSHIP",
  "cGATHERINGcSTRENGTHcPURITYcFULLNESScRESIDENCEcLAW OR MODELcRESPONSEcGOING TO MEETcENCOUNTERS",
  "cSTOVEcGREATNESScENLARGEMENTcPATTERNcRITUALcFLIGHTcVASTNESS OR WASTINGcCONSTANCYcMEASURE",
  "cETERNITYcUNITYcDIMINISHMENTcCLOSED MOUTHcGUARDEDNESScGATHERING INcMASSINGcACCUMULATION",
  "cEMBELLISHMENTcDOUBTcWATCHcSINKINGcINNERcDEPARTUREcDARKENINGcDIMMINGcEXHAUSTIONcSEVERANCE",
  "cSTOPPAGEcHARDNESScCOMPLETIONcCLOSUREcFAILUREcAGGRAVATIONcCOMPLIANCEcON THE VERGE",
  "cDIFFICULTIEScLABOURINGcFOSTERING:1D360aCOUNTING ROD UNIT DIGIT ONEeTWOeTHREEeFOUReFIVEeSIX",
  "eSEVENeEIGHTeNINEcTENS DIGIT ONEeTWOeTHREEeFOUReFIVEeSIXeSEVENeEIGHTeNINE",
  "aIDEOGRAPHIC TALLY MARK ONEdTWOdTHREEdFOURdFIVEaTALLY MARK ONEcFIVE",
  ":1D400aMATHEMATICAL BOLD CAPITAL AdBdCdDdEdFdGdHdIdJdKdLdMdNdOdPdQdRdSdTdUdVdWdXdYdZcSMALL A",
  "dBdCdDdEdFdGdHdIdJdKdLdMdNdOdPdQdRdSdTdUdVdWdXdYdZbITALIC CAPITAL AdBdCdDdEdFdGdHdIdJdKdLdM",
  "dNdOdPdQdRdSdTdUdVdWdXdYdZcSMALL AdBdCdDdEdFdG:1D456dIdJdKdLdMdNdOdPdQdRdSdTdUdVdWdXdYdZ",
  "bBOLD ITALIC CAPITAL AeBeCeDeEeFeGeHeIeJeKeLeMeNeOePeQeReSeTeUeVeWeXeYeZdSMALL AeBeCeDeEeFeG",
  "eHeIeJeKeLeMeNeOePeQeReSeTeUeVeWeXeYeZbSCRIPT CAPITAL A:1D49EdCdD:1D4A2dG:1D4A5dJdK:1D4A9dN",
  "dOdPdQ:1D4AEdSdTdUdVdWdXdYdZcSMALL AdBdCdD:1D4BBdF:1D4BDdHdIdJdKdLdMdN:1D4C5dPdQdRdSdTdUdVdW",
  "dXdYdZbBOLD SCRIPT CAPITAL AeBeCeDeEeFeGeHeIeJeKeLeMeNeOePeQeReSeTeUeVeWeXeYeZdSMALL AeBeCeD",
  "eEeFeGeHeIeJeKeLeMeNeOePeQeReSeTeUeVeWeXeYeZbFRAKTUR CAPITAL AdB:1D507dDdEdFdG:1D50DdJdKdLdM",
  "dNdOdPdQ:1D516dSdTdUdVdWdXdY:1D51EcSMALL AdBdCdDdEdFdGdHdIdJdKdLdMdNdOdPdQdRdSdTdUdVdWdXdYdZ",
  "bDOUBLE-STRUCK CAPITAL AdB:1D53BdDdEdFdG:1D540dIdJdKdLdM:1D546dO:1D54AdSdTdUdVdWdXdY",
  ":1D552cSMALL AdBdCdDdEdFdGdHdIdJdKdLdMdNdOdPdQdRdSdTdUdVdWdXdYdZbBOLD FRAKTUR CAPITAL AeBeC",
  "eDeEeFeGeHeIeJeKeLeMeNeOePeQeReSeTeUeVeWeXeYeZdSMALL AeBeCeDeEeFeGeHeIeJeKeLeMeNeOePeQeReSeT",
  "eUeVeWeXeYeZbSANS-SERIF CAPITAL AdBdCdDdEdFdGdHdIdJdKdLdMdNdOdPdQdRdSdTdUdVdWdXdYdZcSMALL A",
  "dBdCdDdEdFdGdHdIdJdKdLdMdNdOdPdQdRdSdTdUdVdWdXdYdZcBOLD CAPITAL AeBeCeDeEeFeGeHeIeJeKeLeMeN",
  "eOePeQeReSeTeUeVeWeXeYeZdSMALL AeBeCeDeEeFeGeHeIeJeKeLeMeNeOePeQeReSeTeUeVeWeXeYeZ",
  "cITALIC CAPITAL AeBeCeDeEeFeGeHeIeJeKeLeMeNeOePeQeReSeTeUeVeWeXeYeZdSMALL AeBeCeDeEeFeGeHeI",
  "eJeKeLeMeNeOePeQeReSeTeUeVeWeXeYeZcBOLD ITALIC CAPITAL AfBfCfDfEfFfGfHfIfJfKfLfMfNfOfPfQfRfS",
  "fTfUfVfWfXfYfZeSMALL AfBfCfDfEfFfGfHfIfJfKfLfMfNfOfPfQfRfSfTfUfVfWfXfYfZbMONOSPACE CAPITAL A",
  "dBdCdDdEdFdGdHdIdJdKdLdMdNdOdPdQdRdSdTdUdVdWdXdYdZcSMALL AdBdCdDdEdFdGdHdIdJdKdLdMdNdOdPdQdR",
  "dSdTdUdVdWdXdYdZbITALIC SMALL DOTLESS IeJ:1D6A8bBOLD CAPITAL ALPHAdBETAdGAMMAdDELTAdEPSILON",
  "dZETAdETAdTHETAdIOTAdKAPPAdLAMDAdMUdNUdXIdOMICRONdPIdRHOdTHETA SYMBOLdSIGMAdTAUdUPSILONdPHI",
  "dCHIdPSIdOMEGAcNABLAcSMALL ALPHAdBETAdGAMMAdDELTAdEPSILONdZETAdETAdTHETAdIOTAdKAPPAdLAMDAdMU",
  "dNUdXIdOMICRONdPIdRHOdFINAL SIGMAdSIGMAdTAUdUPSILONdPHIdCHIdPSIdOMEGAcPARTIAL DIFFERENTIAL",
  "cEPSILON SYMBOLcTHETA SYMBOLcKAPPA SYMBOLcPHI SYMBOLcRHO SYMBOLcPI SYMBOL",
  "bITALIC CAPITAL ALPHAdBETAdGAMMAdDELTAdEPSILONdZETAdETAdTHETAdIOTAdKAPPAdLAMDAdMUdNUdXI",
  "dOMICRONdPIdRHOdTHETA SYMBOLdSIGMAdTAUdUPSILONdPHIdCHIdPSIdOMEGAcNABLAcSMALL ALPHAdBETA",
  "dGAMMAdDELTAdEPSILONdZETAdETAdTHETAdIOTAdKAPPAdLAMDAdMUdNUdXIdOMICRONdPIdRHOdFINAL SIGMA",
  "dSIGMAdTAUdUPSILONdPHIdCHIdPSIdOMEGAcPARTIAL DIFFERENTIALcEPSILON SYMBOLcTHETA SYMBOL",
  "cKAPPA SYMBOLcPHI SYMBOLcRHO SYMBOLcPI SYMBOLbBOLD ITALIC CAPITAL ALPHAeBETAeGAMMAeDELTA",
  "eEPSILONeZETAeETAeTHETAeIOTAeKAPPAeLAMDAeMUeNUeXIeOMICRONePIeRHOeTHETA SYMBOLeSIGMAeTAU",
  "eUPSILONePHIeCHIePSIeOMEGAdNABLAdSMALL ALPHAeBETAeGAMMAeDELTAeEPSILONeZETAeETAeTHETAeIOTA",
  "eKAPPAeLAMDAeMUeNUeXIeOMICRONePIeRHOeFINAL SIGMAeSIGMAeTAUeUPSILONePHIeCHIePSIeOMEGA",
  "dPARTIAL DIFFERENTIALdEPSILON SYMBOLdTHETA SYMBOLdKAPPA SYMBOLdPHI SYMBOLdRHO SYMBOL",
  "dPI SYMBOLbSANS-SERIF BOLD CAPITAL ALPHAeBETAeGAMMAeDELTAeEPSILONeZETAeETAeTHETAeIOTAeKAPPA",
  "eLAMDAeMUeNUeXIeOMICRONePIeRHOeTHETA SYMBOLeSIGMAeTAUeUPSILONePHIeCHIePSIeOMEGAdNABLA",
  "dSMALL ALPHAeBETAeGAMMAeDELTAeEPSILONeZETAeETAeTHETAeIOTAeKAPPAeLAMDAeMUeNUeXIeOMICRONePI",
  "eRHOeFINAL SIGMAeSIGMAeTAUeUPSILONePHIeCHIePSIeOMEGAdPARTIAL DIFFERENTIALdEPSILON SYMBOL",
  "dTHETA SYMBOLdKAPPA SYMBOLdPHI SYMBOLdRHO SYMBOLdPI SYMBOLdITALIC CAPITAL ALPHAfBETAfGAMMA",
  "fDELTAfEPSILONfZETAfETAfTHETAfIOTAfKAPPAfLAMDAfMUfNUfXIfOMICRONfPIfRHOfTHETA SYMBOLfSIGMA",
  "fTAUfUPSILONfPHIfCHIfPSIfOMEGAeNABLAeSMALL ALPHAfBETAfGAMMAfDELTAfEPSILONfZETAfETAfTHETA",
  "fIOTAfKAPPAfLAMDAfMUfNUfXIfOMICRONfPIfRHOfFINAL SIGMAfSIGMAfTAUfUPSILONfPHIfCHIfPSIfOMEGA",
  "ePARTIAL DIFFERENTIALeEPSILON SYMBOLeTHETA SYMBOLeKAPPA SYMBOLePHI SYMBOLeRHO SYMBOL",
  "ePI SYMBOLbBOLD CAPITAL DIGAMMAcSMALL DIGAMMA:1D7CEcDIGIT ZEROdONEdTWOdTHREEdFOURdFIVEdSIX",
  "dSEVENdEIGHTdNINEbDOUBLE-STRUCK DIGIT ZEROdONEdTWOdTHREEdFOURdFIVEdSIXdSEVENdEIGHTdNINE",
  "bSANS-SERIF DIGIT ZEROdONEdTWOdTHREEdFOURdFIVEdSIXdSEVENdEIGHTdNINEcBOLD DIGIT ZEROeONEeTWO",
  "eTHREEeFOUReFIVEeSIXeSEVENeEIGHTeNINEbMONOSPACE DIGIT ZEROdONEdTWOdTHREEdFOURdFIVEdSIXdSEVEN",
  "dEIGHTdNINEaSIGNWRITING HAND-FIST INDEXbHAND-CIRCLE INDEXbHAND-CUP INDEXbHAND-OVAL INDEX",
  "bHAND-HINGE INDEXbHAND-ANGLE INDEXbHAND-FIST INDEX BENTbHAND-CIRCLE INDEX BENT",
  "bHAND-FIST THUMB UNDER INDEX BENTcINDEX RAISED KNUCKLEdCUPPEDdHINGEDeLOW",
  "bHAND-CIRCLE INDEX HINGEbHAND-FIST INDEX MIDDLEbHAND-CIRCLE INDEX MIDDLE",
  "bHAND-FIST INDEX MIDDLE BENTeRAISED KNUCKLESeHINGEDdUP MIDDLE HINGEDdHINGED MIDDLE UP",
  "dMIDDLE CONJOINEDfINDEX BENTfMIDDLE BENTfCUPPEDfHINGEDeCROSSED",
  "bHAND-CIRCLE INDEX MIDDLE CROSSEDbHAND-FIST MIDDLE BENT OVER INDEXcINDEX BENT OVER MIDDLE",
  "dMIDDLE THUMBbHAND-CIRCLE INDEX MIDDLE THUMBbHAND-FIST INDEX MIDDLE STRAIGHT THUMB BENT",
  "eBENT THUMB STRAIGHTeTHUMB BENTeHINGED SPREAD THUMB SIDEdUP MIDDLE HINGED THUMB SIDE",
  "hCONJOINEDdHINGED MIDDLE UP THUMB SIDEdMIDDLE UP SPREAD THUMB FORWARDeTHUMB CUPPEDfCIRCLED",
  "fHOOKED"]

/-- The names of characters from U+1D82B to U+E007F. -/
def namesFrom1D82B : List String := [
  ":1D82BaSIGNWRITING HAND-FIST INDEX MIDDLE THUMB HINGEDcTHUMB BETWEEN INDEX MIDDLE STRAIGHT",
  "cINDEX MIDDLE CONJOINED THUMB SIDEhCONJOINEDhBENTcMIDDLE THUMB HOOKED INDEX UP",
  "cINDEX THUMB HOOKED MIDDLE UPdMIDDLE CONJOINED HINGED THUMB SIDEeCROSSED THUMB SIDE",
  "eCONJOINED THUMB FORWARDfCUPPED THUMB FORWARDcMIDDLE THUMB CUPPED INDEX UP",
  "cINDEX THUMB CUPPED MIDDLE UPcMIDDLE THUMB CIRCLED INDEX UPgHINGED",
  "cINDEX THUMB ANGLED OUT MIDDLE UPfIN MIDDLE UPeCIRCLED MIDDLE UP",
  "dMIDDLE THUMB CONJOINED HINGEDfANGLED OUTfANGLEDcMIDDLE THUMB ANGLED OUT INDEX UPhCROSSED",
  "fINDEX UPcINDEX THUMB HOOKED MIDDLE HINGEDbHAND-FLAT FOUR FINGERSeBENTeHINGEDeCONJOINED",
  "fSPLITbHAND-CLAW FOUR FINGERS CONJOINEDbHAND-FIST FOUR FINGERS CONJOINED BENT",
  "bHAND-HINGE FOUR FINGERS CONJOINEDbHAND-FLAT FIVE FINGERS SPREADcHEEL FIVE FINGERS SPREAD",
  "cFIVE FINGERS SPREAD FOUR BENTcHEEL FIVE FINGERS SPREAD FOUR BENTcFIVE FINGERS SPREAD BENT",
  "cHEEL FIVE FINGERS SPREAD BENTcFIVE FINGERS SPREAD THUMB FORWARD",
  "bHAND-CUP FIVE FINGERS SPREADfOPENbHAND-HINGE FIVE FINGERS SPREAD OPEN",
  "bHAND-OVAL FIVE FINGERS SPREADbHAND-FLAT FIVE FINGERS SPREAD HINGEDgTHUMB SIDEgNO THUMB",
  "bHAND-FLATcBETWEEN PALM FACINGScHEELcTHUMB SIDEcHEEL THUMB SIDEcTHUMB BENTdFORWARD",
  "cSPLIT INDEX THUMB SIDEdCENTREeTHUMB SIDEgBENTdLITTLEbHAND-CLAWcTHUMB SIDEcNO THUMB",
  "cTHUMB FORWARDbHAND-HOOK CURLICUEbHAND-HOOKbHAND-CUP OPENbHAND-CUPcOPEN THUMB SIDE",
  "cTHUMB SIDEcOPEN NO THUMBcNO THUMBcOPEN THUMB FORWARDcTHUMB FORWARDbHAND-CURLICUE OPEN",
  "bHAND-CURLICUEbHAND-CIRCLEbHAND-OVALcTHUMB SIDEcNO THUMBcTHUMB FORWARDbHAND-HINGE OPEN",
  "dTHUMB FORWARDbHAND-HINGEcSMALLcOPEN THUMB SIDEcTHUMB SIDEcOPEN NO THUMBcNO THUMB",
  "cTHUMB SIDE TOUCHING INDEXdBETWEEN MIDDLE RINGbHAND-ANGLEbHAND-FIST INDEX MIDDLE RING",
  "bHAND-CIRCLE INDEX MIDDLE RINGbHAND-HINGE INDEX MIDDLE RINGbHAND-ANGLE INDEX MIDDLE RING",
  "bHAND-HINGE LITTLEbHAND-FIST INDEX MIDDLE RING BENTfCONJOINED",
  "bHAND-HINGE INDEX MIDDLE RING CONJOINEDbHAND-FIST LITTLE DOWNeRIPPLE STRAIGHTfCURVED",
  "eOTHERS CIRCLEDdUPcTHUMB UNDER LITTLE UPbHAND-CIRCLE LITTLE UPbHAND-OVAL LITTLE UP",
  "bHAND-ANGLE LITTLE UPbHAND-FIST LITTLE RAISED KNUCKLEdBENTdTOUCHES THUMBdTHUMB",
  "bHAND-HINGE LITTLE THUMBbHAND-FIST LITTLE INDEX THUMBbHAND-HINGE LITTLE INDEX THUMB",
  "bHAND-ANGLE LITTLE INDEX THUMB INDEX THUMB OUTgTHUMBbHAND-FIST LITTLE INDEX",
  "bHAND-CIRCLE LITTLE INDEXbHAND-HINGE LITTLE INDEXbHAND-ANGLE LITTLE INDEX",
  "bHAND-FIST INDEX MIDDLE LITTLEbHAND-CIRCLE INDEX MIDDLE LITTLE",
  "bHAND-HINGE INDEX MIDDLE LITTLEcRINGbHAND-ANGLE INDEX MIDDLE LITTLE",
  "bHAND-FIST INDEX MIDDLE CROSS LITTLEbHAND-CIRCLE INDEX MIDDLE CROSS LITTLE",
  "bHAND-FIST RING DOWNbHAND-HINGE RING DOWN INDEX THUMB HOOK MIDDLE",
  "bHAND-ANGLE RING DOWN MIDDLE THUMB INDEX CROSSbHAND-FIST RING UPdRAISED KNUCKLEdLITTLE",
  "bHAND-CIRCLE RING LITTLEbHAND-OVAL RING LITTLEbHAND-ANGLE RING LITTLEbHAND-FIST RING MIDDLE",
  "eCONJOINEDeRAISED KNUCKLESdINDEXdTHUMBbHAND-HOOK RING THUMBbHAND-FIST INDEX RING LITTLE",
  "bHAND-CIRCLE INDEX RING LITTLEbHAND-CURLICUE INDEX RING LITTLE ON",
  "bHAND-HOOK INDEX RING LITTLE OUTfINfUNDERbHAND-CUP INDEX RING LITTLE",
  "bHAND-HINGE INDEX RING LITTLEbHAND-ANGLE INDEX RING LITTLE OUTeLITTLEbHAND-FIST MIDDLE DOWN",
  "bHAND-HINGE MIDDLEbHAND-FIST MIDDLE UPbHAND-CIRCLE MIDDLE UPbHAND-FIST MIDDLE RAISED KNUCKLE",
  "dUP THUMB SIDEbHAND-HOOK MIDDLE THUMBbHAND-FIST MIDDLE THUMB LITTLEdLITTLEdRING LITTLE",
  "bHAND-CIRCLE MIDDLE RING LITTLEbHAND-CURLICUE MIDDLE RING LITTLE ON",
  "bHAND-CUP MIDDLE RING LITTLEbHAND-HINGE MIDDLE RING LITTLEbHAND-ANGLE MIDDLE RING LITTLE OUT",
  "fINeLITTLEbHAND-CIRCLE MIDDLE RING LITTLE BENTbHAND-CLAW MIDDLE RING LITTLE CONJOINEDgSIDE",
  "bHAND-HOOK MIDDLE RING LITTLE CONJOINED OUTgINfCONJOINEDbHAND-HINGE INDEX HINGED",
  "bHAND-FIST INDEX THUMB SIDEbHAND-HINGE INDEX THUMB SIDE",
  "bHAND-FIST INDEX THUMB SIDE THUMB DIAGONALgCONJOINEDgBENTfINDEX BENTfBOTH BENTfINDEX HINGE",
  "eFORWARD INDEX STRAIGHTgBENTeHOOKeCURLICUEeCURVE THUMB INSIDE",
  "bHAND-CLAW INDEX THUMB CURVE THUMB INSIDEbHAND-FIST INDEX THUMB CURVE THUMB UNDEReCIRCLE",
  "bHAND-CUP INDEX THUMBeOPENbHAND-HINGE INDEX THUMB OPENeLARGEdTHUMBeSMALL",
  "bHAND-ANGLE INDEX THUMB OUTeINdTHUMBbHAND-FIST THUMBdHEELdSIDE DIAGONALeCONJOINEDeBENT",
  "dFORWARDdBETWEEN INDEX MIDDLEeMIDDLE RINGeRING LITTLEdUNDER TWO FINGERSdOVER TWO FINGERS",
  "dUNDER THREE FINGERSeFOUR FINGERSdOVER FOUR RAISED KNUCKLESbHAND-FISTcHEELbTOUCH SINGLE",
  "cMULTIPLEcBETWEENbGRASP SINGLEcMULTIPLEcBETWEENbSTRIKE SINGLEcMULTIPLEcBETWEENbBRUSH SINGLE",
  "cMULTIPLEcBETWEENbRUB SINGLEcMULTIPLEcBETWEENbSURFACE SYMBOLScBETWEENbSQUEEZE LARGE SINGLE",
  "cSMALL SINGLEcLARGE MULTIPLEcSMALL MULTIPLEcSEQUENTIALbFLICK LARGE SINGLEcSMALL SINGLE",
  "cLARGE MULTIPLEcSMALL MULTIPLEcSEQUENTIALbSQUEEZE FLICK ALTERNATING",
  "bMOVEMENT-HINGE UP DOWN LARGEeSMALLdSEQUENTIALcDOWN SEQUENTIALcUP DOWN ALTERNATING LARGE",
  "fSMALLcSIDE TO SIDE SCISSORSbMOVEMENT-WALLPLANE FINGER CONTACT",
  "bMOVEMENT-FLOORPLANE FINGER CONTACTbMOVEMENT-WALLPLANE SINGLE STRAIGHT SMALLeMEDIUMeLARGE",
  "eLARGESTdWRIST FLEXcDOUBLE STRAIGHTdWRIST FLEXdALTERNATINGeWRIST FLEXcCROSS",
  "cTRIPLE STRAIGHT MOVEMENTdWRIST FLEXdALTERNATINGeWRIST FLEXcBEND SMALLdMEDIUMdLARGE",
  "cCORNER SMALLdMEDIUMdLARGEdROTATIONcCHECK SMALLdMEDIUMdLARGEcBOX SMALLdMEDIUMdLARGE",
  "cZIGZAG SMALLdMEDIUMdLARGEcPEAKS SMALLdMEDIUMdLARGE",
  "bTRAVEL-WALLPLANE ROTATION-WALLPLANE SINGLEdDOUBLEdALTERNATINGcROTATION-FLOORPLANE SINGLE",
  "dDOUBLEdALTERNATINGcSHAKINGcARM SPIRAL SINGLEeDOUBLEeTRIPLEbMOVEMENT-DIAGONAL AWAY SMALL",
  "dMEDIUMdLARGEdLARGESTcTOWARDS SMALLdMEDIUMdLARGEdLARGESTcBETWEEN AWAY SMALLeMEDIUMeLARGE",
  "eLARGESTdTOWARDS SMALLeMEDIUMeLARGEeLARGESTbMOVEMENT-FLOORPLANE SINGLE STRAIGHT SMALLeMEDIUM",
  "eLARGEeLARGESTdWRIST FLEXcDOUBLE STRAIGHTdWRIST FLEXdALTERNATINGeWRIST FLEXcCROSS",
  "cTRIPLE STRAIGHT MOVEMENTdWRIST FLEXdALTERNATING MOVEMENTeWRIST FLEXcBENDcCORNER SMALL",
  "dMEDIUMdLARGEcCHECKcBOX SMALLdMEDIUMdLARGEcZIGZAG SMALLdMEDIUMdLARGEcPEAKS SMALLdMEDIUM",
  "dLARGEbTRAVEL-FLOORPLANE ROTATION-FLOORPLANE SINGLEdDOUBLEdALTERNATING",
  "cROTATION-WALLPLANE SINGLEdDOUBLEdALTERNATINGcSHAKINGbMOVEMENT-WALLPLANE CURVE QUARTER SMALL",
  "eMEDIUMeLARGEeLARGESTdHALF-CIRCLE SMALLeMEDIUMeLARGEeLARGESTdTHREE-QUARTER CIRCLE SMALL",
  "fMEDIUMcHUMP SMALLdMEDIUMdLARGEcLOOP SMALLdMEDIUMdLARGEdSMALL DOUBLEcWAVE CURVE DOUBLE SMALL",
  "fMEDIUMfLARGEeTRIPLE SMALLfMEDIUMfLARGEcCURVE THEN STRAIGHTcCURVED CROSS SMALLeMEDIUM",
  "bROTATION-WALLPLANE SINGLEcDOUBLEcALTERNATEbMOVEMENT-WALLPLANE SHAKING",
  "cCURVE HITTING FRONT WALLcHUMP HITTING FRONT WALLcLOOP HITTING FRONT WALL",
  "cWAVE HITTING FRONT WALLbROTATION-WALLPLANE SINGLE HITTING FRONT WALL",
  "cDOUBLE HITTING FRONT WALLcALTERNATING HITTING FRONT WALL",
  "bMOVEMENT-WALLPLANE CURVE HITTING CHESTcHUMP HITTING CHESTcLOOP HITTING CHEST",
  "cWAVE HITTING CHESTbROTATION-WALLPLANE SINGLE HITTING CHESTcDOUBLE HITTING CHEST",
  "cALTERNATING HITTING CHESTbMOVEMENT-WALLPLANE WAVE DIAGONAL PATH SMALLfMEDIUMfLARGE",
  "bMOVEMENT-FLOORPLANE CURVE HITTING CEILING SMALLfLARGEcHUMP HITTING CEILING SMALL DOUBLE",
  "fLARGE DOUBLEfSMALL TRIPLEfLARGE TRIPLEcLOOP HITTING CEILING SMALL SINGLEfLARGE SINGLE",
  "fSMALL DOUBLEfLARGE DOUBLEcWAVE HITTING CEILING SMALLfLARGE",
  "bROTATION-FLOORPLANE SINGLE HITTING CEILINGcDOUBLE HITTING CEILING",
  "cALTERNATING HITTING CEILINGbMOVEMENT-FLOORPLANE CURVE HITTING FLOOR SMALLfLARGE",
  "cHUMP HITTING FLOOR SMALL DOUBLEfLARGE DOUBLEfTRIPLE SMALL TRIPLEgLARGE TRIPLE",
  "cLOOP HITTING FLOOR SMALL SINGLEfLARGE SINGLEfSMALL DOUBLEfLARGE DOUBLE",
  "cWAVE HITTING FLOOR SMALLfLARGEbROTATION-FLOORPLANE SINGLE HITTING FLOOR",
  "cDOUBLE HITTING FLOORcALTERNATING HITTING FLOORbMOVEMENT-FLOORPLANE CURVE SMALLdMEDIUMdLARGE",
  "dLARGESTdCOMBINEDcHUMP SMALLcLOOP SMALLcWAVE SNAKEdSMALLdLARGEbROTATION-FLOORPLANE SINGLE",
  "cDOUBLEcALTERNATINGbMOVEMENT-FLOORPLANE SHAKING PARALLEL",
  "bMOVEMENT-WALLPLANE ARM CIRCLE SMALL SINGLEeMEDIUM SINGLEeSMALL DOUBLEeMEDIUM DOUBLE",
  "bMOVEMENT-FLOORPLANE ARM CIRCLE HITTING WALL SMALL SINGLEgMEDIUM SINGLEgLARGE SINGLE",
  "gSMALL DOUBLEgMEDIUM DOUBLEgLARGE DOUBLEbMOVEMENT-WALLPLANE WRIST CIRCLE FRONT SINGLEfDOUBLE",
  "bMOVEMENT-FLOORPLANE WRIST CIRCLE HITTING WALL SINGLEgDOUBLE",
  "bMOVEMENT-WALLPLANE FINGER CIRCLES SINGLEeDOUBLE",
  "bMOVEMENT-FLOORPLANE FINGER CIRCLES HITTING WALL SINGLEgDOUBLEbDYNAMIC ARROWHEAD SMALLdLARGE",
  "cFASTcSLOWcTENSEcRELAXEDcSIMULTANEOUSdALTERNATINGcEVERY OTHER TIMEcGRADUALbHEADcRIM",
  "cMOVEMENT-WALLPLANE STRAIGHTdTILTcMOVEMENT-FLOORPLANE STRAIGHTcMOVEMENT-WALLPLANE CURVE",
  "cMOVEMENT-FLOORPLANE CURVEcMOVEMENT CIRCLEbFACE DIRECTION POSITION NOSE FORWARD TILTING",
  "fUP OR DOWNiTILTINGbEYEBROWS STRAIGHT UPdNEUTRALdDOWNbDREAMY EYEBROWS NEUTRAL DOWN",
  "dDOWN NEUTRALdUP NEUTRALdNEUTRAL UPbFOREHEAD NEUTRALcCONTACTcWRINKLEDbEYES OPENcSQUEEZED",
  "cCLOSEDbEYE BLINK SINGLEdMULTIPLEbEYES HALF OPENcWIDE OPENcHALF CLOSEDcWIDENING MOVEMENT",
  "bEYE WINKbEYELASHES UPcDOWNcFLUTTERINGbEYEGAZE-WALLPLANE STRAIGHTdDOUBLEdALTERNATING",
  "bEYEGAZE-FLOORPLANE STRAIGHTdDOUBLEdALTERNATINGbEYEGAZE-WALLPLANE CURVED",
  "bEYEGAZE-FLOORPLANE CURVEDbEYEGAZE-WALLPLANE CIRCLINGbCHEEKS PUFFEDcNEUTRALcSUCKED",
  "bTENSE CHEEKS HIGHdMIDDLEdLOWbEARSbNOSE NEUTRALcCONTACTcWRINKLEScWIGGLESbAIR BLOWING OUT",
  "cSUCKING INcBLOW SMALL ROTATIONScSUCK SMALL ROTATIONSbBREATH INHALEcEXHALE",
  "bMOUTH CLOSED NEUTRALdFORWARDdCONTACTcSMILEdWRINKLEDdOPENcFROWNdWRINKLEDdOPENcOPEN CIRCLE",
  "dFORWARDdWRINKLEDdOVALeWRINKLEDeYAWNdRECTANGLEeWRINKLEDeYAWNcKISSdFORWARDdWRINKLEDcTENSE",
  "dFORWARDdSUCKEDbLIPS PRESSED TOGETHERbLIP LOWER OVER UPPERcUPPER OVER LOWERbMOUTH CORNERS",
  "cWRINKLES SINGLEdDOUBLEbTONGUE STICKING OUT FARcLICKING LIPScTIP BETWEEN LIPS",
  "dTOUCHING INSIDE MOUTHcINSIDE MOUTH RELAXEDcMOVES AGAINST CHEEKcCENTRE STICKING OUT",
  "dINSIDE MOUTHbTEETHcMOVEMENTcON TONGUEeMOVEMENTdLIPSeMOVEMENTcBITE LIPS",
  "bMOVEMENT-WALLPLANE JAWbMOVEMENT-FLOORPLANE JAWbNECKbHAIRbEXCITEMENTbSHOULDER HIP SPINE",
  "dPOSITIONSbWALLPLANE SHOULDER HIP MOVEbFLOORPLANE SHOULDER HIP MOVE",
  "bSHOULDER TILTING FROM WAISTbTORSO-WALLPLANE STRAIGHT STRETCHcCURVED BEND",
  "bTORSO-FLOORPLANE TWISTINGbUPPER BODY TILTING FROM HIP JOINTSbLIMB COMBINATIONcLENGTH-1",
  "cLENGTH-2cLENGTH-3cLENGTH-4cLENGTH-5cLENGTH-6cLENGTH-7bFINGERbLOCATION-WALLPLANE SPACE",
  "bLOCATION-FLOORPLANE SPACEbLOCATION HEIGHTcWIDTHcDEPTHcHEAD NECKcTORSOcLIMBS DIGITSbCOMMA",
  "bFULL STOPbSEMICOLONbCOLONbPARENTHESIS:1DA9BbFILL MODIFIER-2cMODIFIER-3cMODIFIER-4",
  "cMODIFIER-5cMODIFIER-6:1DAA1bROTATION MODIFIER-2cMODIFIER-3cMODIFIER-4cMODIFIER-5cMODIFIER-6",
  "cMODIFIER-7cMODIFIER-8cMODIFIER-9cMODIFIER-10cMODIFIER-11cMODIFIER-12cMODIFIER-13",
  "cMODIFIER-14cMODIFIER-15cMODIFIER-16:1DF00aLATIN SMALL LETTER FENG DIGRAPH WITH TRILL",
  "dREVERSED SCRIPT GbLETTER SMALL CAPITAL TURNED GbSMALL LETTER REVERSED K",
  "bLETTER SMALL CAPITAL L WITH BELTbSMALL LETTER LEZH WITH RETROFLEX HOOKdTURNED Y WITH BELT",
  "dREVERSED ENGdTURNED R WITH LONG LEG AND RETROFLEX HOOKdT WITH HOOK AND RETROFLEX HOOK",
  "bLETTER RETROFLEX CLICK WITH RETROFLEX HOOKbSMALL LETTER ESH WITH DOUBLE BARhAND CURL",
  "dTURNED T WITH CURLbLETTER INVERTED GLOTTAL STOP WITH CURLcSTRETCHED C WITH CURL",
  "cSMALL CAPITAL TURNED KbSMALL LETTER L WITH FISHHOOKdDEZH DIGRAPH WITH PALATAL HOOK",
  "dL WITH BELT AND PALATAL HOOKdENG WITH PALATAL HOOKdTURNED R WITH PALATAL HOOK",
  "dR WITH FISHHOOK AND PALATAL HOOKdTESH DIGRAPH WITH PALATAL HOOKdEZH WITH PALATAL HOOK",
  "dDEZH DIGRAPH WITH RETROFLEX HOOKdI WITH STROKE AND RETROFLEX HOOKdO WITH RETROFLEX HOOK",
  "dTESH DIGRAPH WITH RETROFLEX HOOKdC WITH RETROFLEX HOOKdS WITH CURL",
  ":1E000aCOMBINING GLAGOLITIC LETTER AZUdBUKYdVEDEdGLAGOLIdDOBROdYESTUdZHIVETE:1E008dZEMLJA",
  "dIZHEdINITIAL IZHEdIdDJERVIdKAKOdLJUDIJEdMYSLITEdNASHIdONUdPOKOJIdRITSIdSLOVOdTVRIDOdUKU",
  "dFRITUdHERU:1E01BdSHTAdTSIdCHRIVIdSHAdYERUdYERIdYATI:1E023dYUdSMALL YUS:1E026dYO",
  "dIOTATED SMALL YUSdBIG YUSdIOTATED BIG YUSdFITA:1E100aNYIAKENG PUACHUE HMONG LETTER MAeTSA",
  "eNTAeTAeHAeNAeXAeNKAeCAeLAeSAeZAeNCAeNTSAeKAeDAeNYAeNRAeVAeNTXAeTXAeFAeRAeQAeYAeNQAePAeXYA",
  "eNPAeDLAeNPLAeHAHeMLAePLAeGAeRRAeAeAAeIeUeOeOOeEeEEeW:1E130dTONE-BdTONE-MdTONE-JdTONE-V",
  "dTONE-SdTONE-GdTONE-DdSIGN FOR PERSONfTHINGfLOCATIONfANIMALfINVERTEBRATEeXW XW",
  "dSYLLABLE LENGTHENER:1E140dDIGIT ZEROeONEeTWOeTHREEeFOUReFIVEeSIXeSEVENeEIGHTeNINE",
  ":1E14EdLOGOGRAM NYAJdCIRCLED CA:1E290aTOTO LETTER PAcBAcTAcDAcKAcGAcMAcNAcNGAcSAcCHAcYAcWA",
  "cJAcHAcRAcLAcIcBREATHY IcIUcBREATHY IUcUcEcBREATHY EcEOcBREATHY EOcOcAEcBREATHY AEcA",
  "bSIGN RISING TONE:1E2C0aWANCHO LETTER AAcAcBAcCAcDAcGAcYAcPHAcLAcNAcPAcTAcTHAcFAcSAcSHAcJA",
  "cZAcWAcVAcKAcOcAUcRAcMAcKHAcHAcEcIcNGAcUcLLHAcTSAcTRAcONGcAANGcANGcINGcONcENcAANcNYAcUENcYIH",
  "bTONE TUPcTUPNIcKOIcKOINIbDIGIT ZEROcONEcTWOcTHREEcFOURcFIVEcSIXcSEVENcEIGHTcNINE",
  ":1E2FFbNGUN SIGN:1E7E0aETHIOPIC SYLLABLE HHYAcHHYUcHHYIcHHYAAcHHYEEcHHYEcHHYO",
  ":1E7E8cGURAGE HHWAcHHWIcHHWEEcHHWE:1E7EDcGURAGE MWIdMWEE:1E7F0dQWIdQWEEdQWEdBWIdBWEEdKWI",
  "dKWEEdKWEdGWIdGWEEdGWEdFWIdFWEEdPWIdPWEE:1E800aMENDE KIKAKUI SYLLABLE M001 KIdM002 KA",
  "dM003 KUdM065 KEEdM095 KEdM076 KOOdM048 KOdM179 KUAdM004 WIdM005 WAdM006 WUdM126 WEEdM118 WE",
  "dM114 WOOdM045 WOdM194 WUIdM143 WEIdM061 WVIdM049 WVAdM139 WVEdM007 MINdM008 MANdM009 MUN",
  "dM059 MENdM094 MONdM154 MUANdM189 MUENdM010 BIdM011 BAdM012 BUdM150 BEEdM097 BEdM103 BOO",
  "dM138 BOdM013 IdM014 AdM015 UdM163 EEdM100 EdM165 OOdM147 OdM137 EIdM131 INdM135 INdM195 AN",
  "dM178 ENdM019 SIdM020 SAdM021 SUdM162 SEEdM116 SEdM136 SOOdM079 SOdM196 SIAdM025 LIdM026 LA",
  "dM027 LUdM084 LEEdM073 LEdM054 LOOdM153 LOdM110 LONG LEdM016 DIdM017 DAdM018 DUdM089 DEE",
  "dM180 DOOdM181 DOdM022 TIdM023 TAdM024 TUdM091 TEEdM055 TEdM104 TOOdM069 TOdM028 JIdM029 JA",
  "dM030 JUdM157 JEEdM113 JEdM160 JOOdM063 JOdM175 LONG JOdM031 YIdM032 YAdM033 YUdM109 YEE",
  "dM080 YEdM141 YOOdM121 YOdM034 FIdM035 FAdM036 FUdM078 FEEdM075 FEdM133 FOOdM088 FOdM197 FUA",
  "dM101 FANdM037 NINdM038 NANdM039 NUNdM117 NENdM169 NONdM176 HIdM041 HAdM186 HUdM040 HEE",
  "dM096 HEdM042 HOOdM140 HOdM083 HEEIdM128 HOOUdM053 HINdM130 HANdM087 HUNdM052 HENdM193 HON",
  "dM046 HUANdM090 NGGIdM043 NGGAdM082 NGGUdM115 NGGEEdM146 NGGEdM156 NGGOOdM120 NGGO",
  "dM159 NGGAAdM127 NGGUAdM086 LONG NGGEdM106 LONG NGGOOdM183 LONG NGGOdM155 GIdM111 GAdM168 GU",
  "dM190 GEEdM166 GUEIdM167 GUANdM184 NGENdM057 NGONdM177 NGUANdM068 PIdM099 PAdM050 PU",
  "dM081 PEEdM051 PEdM102 POOdM066 POdM145 MBIdM062 MBAdM122 MBUdM047 MBEEdM188 MBEEdM072 MBE",
  "dM172 MBOOdM174 MBOdM187 MBUUdM161 LONG MBEdM105 LONG MBOOdM142 LONG MBOdM132 KPIdM092 KPA",
  "dM074 KPUdM044 KPEEdM108 KPEdM112 KPOOdM158 KPOdM124 GBIdM056 GBAdM148 GBUdM093 GBEE",
  "dM107 GBEdM071 GBOOdM070 GBOdM171 RAdM123 NDIdM129 NDAdM125 NDUdM191 NDEEdM119 NDEdM067 NDOO",
  "dM064 NDOdM152 NJAdM192 NJUdM149 NJEEdM134 NJOOdM182 VIdM185 VAdM151 VUdM173 VEEdM085 VE",
  "dM144 VOOdM077 VOdM164 NYINdM058 NYANdM170 NYUNdM098 NYENdM060 NYON:1E8C7cDIGIT ONEdTWO",
  "dTHREEdFOURdFIVEdSIXdSEVENdEIGHTdNINEcCOMBINING NUMBER TEENSeTENSeHUNDREDSeTHOUSANDS",
  "eTEN THOUSANDSeHUNDRED THOUSANDSeMILLIONS:1E900aADLAM CAPITAL LETTER ALIFdDAALIdLAAMdMIIMdBA",
  "dSINNYIIYHEdPEdBHEdRAdEdFAdIdOdDHAdYHEdWAWdNUNdKAFdYAdUdJIIMdCHIdHAdQAAFdGAdNYAdTUdNHAdVA",
  "dKHAdGBEdZALdKPOdSHAbSMALL LETTER ALIFdDAALIdLAAMdMIIMdBAdSINNYIIYHEdPEdBHEdRAdEdFAdIdOdDHA",
  "dYHEdWAWdNUNdKAFdYAdUdJIIMdCHIdHAdQAAFdGAdNYAdTUdNHAdVAdKHAdGBEdZALdKPOdSHAbALIF LENGTHENER",
  "bVOWEL LENGTHENERbGEMINATION MARKbHAMZAbCONSONANT MODIFIERbGEMINATE CONSONANT MODIFIERbNUKTA",
  "bNASALIZATION MARK:1E950bDIGIT ZEROcONEcTWOcTHREEcFOURcFIVEcSIXcSEVENcEIGHTcNINE",
  ":1E95EbINITIAL EXCLAMATION MARKcQUESTION MARK:1EC71aINDIC SIYAQ NUMBER ONEdTWOdTHREEdFOUR",
  "dFIVEdSIXdSEVENdEIGHTdNINEdTENdTWENTYdTHIRTYdFORTYdFIFTYdSIXTYdSEVENTYdEIGHTYdNINETY",
  "dONE HUNDREDdTWO HUNDREDdTHREE HUNDREDdFOUR HUNDREDdFIVE HUNDREDdSIX HUNDREDdSEVEN HUNDRED",
  "dEIGHT HUNDREDdNINE HUNDREDdONE THOUSANDdTWO THOUSANDdTHREE THOUSANDdFOUR THOUSAND",
  "dFIVE THOUSANDdSIX THOUSANDdSEVEN THOUSANDdEIGHT THOUSANDdNINE THOUSANDdTEN THOUSAND",
  "dTWENTY THOUSANDdTHIRTY THOUSANDdFORTY THOUSANDdFIFTY THOUSANDdSIXTY THOUSAND",
  "dSEVENTY THOUSANDdEIGHTY THOUSANDdNINETY THOUSANDdLAKHdLAKHANcLAKH MARKcNUMBER KARORdKARORAN",
  "dPREFIXED ONEeTWOeTHREEeFOUReFIVEeSIXeSEVENeEIGHTeNINEcPLACEHOLDERcFRACTION ONE QUARTEReHALF",
  "dTHREE QUARTERScRUPEE MARKcNUMBER ALTERNATE ONEeTWOeTEN THOUSANDcALTERNATE LAKH MARK",
  ":1ED01aOTTOMAN SIYAQ NUMBER ONEdTWOdTHREEdFOURdFIVEdSIXdSEVENdEIGHTdNINEdTENdTWENTYdTHIRTY",
  "dFORTYdFIFTYdSIXTYdSEVENTYdEIGHTYdNINETYdONE HUNDREDdTWO HUNDREDdTHREE HUNDREDdFOUR HUNDRED",
  "dFIVE HUNDREDdSIX HUNDREDdSEVEN HUNDREDdEIGHT HUNDREDdNINE HUNDREDdONE THOUSANDdTWO THOUSAND",
  "dTHREE THOUSANDdFOUR THOUSANDdFIVE THOUSANDdSIX THOUSANDdSEVEN THOUSANDdEIGHT THOUSAND",
  "dNINE THOUSANDdTEN THOUSANDdTWENTY THOUSANDdTHIRTY THOUSANDdFORTY THOUSANDdFIFTY THOUSAND",
  "dSIXTY THOUSANDdSEVENTY THOUSANDdEIGHTY THOUSANDdNINETY THOUSANDcMARRATAN",
  "cALTERNATE NUMBER TWOeTHREEeFOUReFIVEeSIXeSEVENeEIGHTeNINEeTENeFOUR HUNDREDeSIX HUNDRED",
  "eTWO THOUSANDeTEN THOUSANDcFRACTION ONE HALFeSIXTH:1EE00aARABIC MATHEMATICAL ALEFcBEHcJEEM",
  "cDAL:1EE05cWAWcZAINcHAHcTAHcYEHcKAFcLAMcMEEMcNOONcSEENcAINcFEHcSADcQAFcREHcSHEENcTEHcTHEH",
  "cKHAHcTHALcDADcZAHcGHAINcDOTLESS BEHdNOONdFEHdQAF:1EE21cINITIAL BEHdJEEM:1EE24dHEH:1EE27dHAH",
  ":1EE29dYEHdKAFdLAMdMEEMdNOONdSEENdAINdFEHdSADdQAF:1EE34dSHEENdTEHdTHEHdKHAH:1EE39dDAD",
  ":1EE3BdGHAIN:1EE42cTAILED JEEM:1EE47dHAH:1EE49dYEH:1EE4BdLAM:1EE4DdNOONdSEENdAIN:1EE51dSAD",
  "dQAF:1EE54dSHEEN:1EE57dKHAH:1EE59dDAD:1EE5BdGHAIN:1EE5DdDOTLESS NOON:1EE5FeQAF",
  ":1EE61cSTRETCHED BEHdJEEM:1EE64dHEH:1EE67dHAHdTAHdYEHdKAF:1EE6CdMEEMdNOONdSEENdAINdFEHdSAD",
  "dQAF:1EE74dSHEENdTEHdTHEHdKHAH:1EE79dDADdZAHdGHAINdDOTLESS BEH:1EE7EeFEH:1EE80cLOOPED ALEF",
  "dBEHdJEEMdDALdHEHdWAWdZAINdHAHdTAHdYEH:1EE8BdLAMdMEEMdNOONdSEENdAINdFEHdSADdQAFdREHdSHEEN",
  "dTEHdTHEHdKHAHdTHALdDADdZAHdGHAIN:1EEA1cDOUBLE-STRUCK BEHdJEEMdDAL:1EEA5dWAWdZAINdHAHdTAH",
  "dYEH:1EEABdLAMdMEEMdNOONdSEENdAINdFEHdSADdQAFdREHdSHEENdTEHdTHEHdKHAHdTHALdDADdZAHdGHAIN",
  ":1EEF0cOPERATOR MEEM WITH HAH WITH TATWEELdHAH WITH DAL:1F000aMAHJONG TILE EAST WIND",
  "cSOUTH WINDcWEST WINDcNORTH WINDcRED DRAGONcGREEN DRAGONcWHITE DRAGONcONE OF CHARACTERS",
  "cTWO OF CHARACTERScTHREE OF CHARACTERScFOUR OF CHARACTERScFIVE OF CHARACTERS",
  "cSIX OF CHARACTERScSEVEN OF CHARACTERScEIGHT OF CHARACTERScNINE OF CHARACTERScONE OF BAMBOOS",
  "cTWO OF BAMBOOScTHREE OF BAMBOOScFOUR OF BAMBOOScFIVE OF BAMBOOScSIX OF BAMBOOS",
  "cSEVEN OF BAMBOOScEIGHT OF BAMBOOScNINE OF BAMBOOScONE OF CIRCLEScTWO OF CIRCLES",
  "cTHREE OF CIRCLEScFOUR OF CIRCLEScFIVE OF CIRCLEScSIX OF CIRCLEScSEVEN OF CIRCLES",
  "cEIGHT OF CIRCLEScNINE OF CIRCLEScPLUMcORCHIDcBAMBOOcCHRYSANTHEMUMcSPRINGcSUMMERcAUTUMN",
  "cWINTERcJOKERcBACK:1F030aDOMINO TILE HORIZONTAL BACKcHORIZONTAL-00-00cHORIZONTAL-00-01",
  "cHORIZONTAL-00-02cHORIZONTAL-00-03cHORIZONTAL-00-04cHORIZONTAL-00-05cHORIZONTAL-00-06",
  "cHORIZONTAL-01-00cHORIZONTAL-01-01cHORIZONTAL-01-02cHORIZONTAL-01-03cHORIZONTAL-01-04",
  "cHORIZONTAL-01-05cHORIZONTAL-01-06cHORIZONTAL-02-00cHORIZONTAL-02-01cHORIZONTAL-02-02",
  "cHORIZONTAL-02-03cHORIZONTAL-02-04cHORIZONTAL-02-05cHORIZONTAL-02-06cHORIZONTAL-03-00",
  "cHORIZONTAL-03-01cHORIZONTAL-03-02cHORIZONTAL-03-03cHORIZONTAL-03-04cHORIZONTAL-03-05",
  "cHORIZONTAL-03-06cHORIZONTAL-04-00cHORIZONTAL-04-01cHORIZONTAL-04-02cHORIZONTAL-04-03",
  "cHORIZONTAL-04-04cHORIZONTAL-04-05cHORIZONTAL-04-06cHORIZONTAL-05-00cHORIZONTAL-05-01",
  "cHORIZONTAL-05-02cHORIZONTAL-05-03cHORIZONTAL-05-04cHORIZONTAL-05-05cHORIZONTAL-05-06",
  "cHORIZONTAL-06-00cHORIZONTAL-06-01cHORIZONTAL-06-02cHORIZONTAL-06-03cHORIZONTAL-06-04",
  "cHORIZONTAL-06-05cHORIZONTAL-06-06cVERTICAL BACKcVERTICAL-00-00cVERTICAL-00-01",
  "cVERTICAL-00-02cVERTICAL-00-03cVERTICAL-00-04cVERTICAL-00-05cVERTICAL-00-06cVERTICAL-01-00",
  "cVERTICAL-01-01cVERTICAL-01-02cVERTICAL-01-03cVERTICAL-01-04cVERTICAL-01-05cVERTICAL-01-06",
  "cVERTICAL-02-00cVERTICAL-02-01cVERTICAL-02-02cVERTICAL-02-03cVERTICAL-02-04cVERTICAL-02-05",
  "cVERTICAL-02-06cVERTICAL-03-00cVERTICAL-03-01cVERTICAL-03-02cVERTICAL-03-03cVERTICAL-03-04",
  "cVERTICAL-03-05cVERTICAL-03-06cVERTICAL-04-00cVERTICAL-04-01cVERTICAL-04-02cVERTICAL-04-03",
  "cVERTICAL-04-04cVERTICAL-04-05cVERTICAL-04-06cVERTICAL-05-00cVERTICAL-05-01cVERTICAL-05-02",
  "cVERTICAL-05-03cVERTICAL-05-04cVERTICAL-05-05cVERTICAL-05-06cVERTICAL-06-00cVERTICAL-06-01",
  "cVERTICAL-06-02cVERTICAL-06-03cVERTICAL-06-04cVERTICAL-06-05cVERTICAL-06-06",
  ":1F0A0aPLAYING CARD BACKcACE OF SPADEScTWO OF SPADEScTHREE OF SPADEScFOUR OF SPADES",
  "cFIVE OF SPADEScSIX OF SPADEScSEVEN OF SPADEScEIGHT OF SPADEScNINE OF SPADEScTEN OF SPADES",
  "cJACK OF SPADEScKNIGHT OF SPADEScQUEEN OF SPADEScKING OF SPADES:1F0B1cACE OF HEARTS",
  "cTWO OF HEARTScTHREE OF HEARTScFOUR OF HEARTScFIVE OF HEARTScSIX OF HEARTScSEVEN OF HEARTS",
  "cEIGHT OF HEARTScNINE OF HEARTScTEN OF HEARTScJACK OF HEARTScKNIGHT OF HEARTS",
  "cQUEEN OF HEARTScKING OF HEARTScRED JOKER:1F0C1cACE OF DIAMONDScTWO OF DIAMONDS",
  "cTHREE OF DIAMONDScFOUR OF DIAMONDScFIVE OF DIAMONDScSIX OF DIAMONDScSEVEN OF DIAMONDS",
  "cEIGHT OF DIAMONDScNINE OF DIAMONDScTEN OF DIAMONDScJACK OF DIAMONDScKNIGHT OF DIAMONDS",
  "cQUEEN OF DIAMONDScKING OF DIAMONDScBLACK JOKER:1F0D1cACE OF CLUBScTWO OF CLUBS",
  "cTHREE OF CLUBScFOUR OF CLUBScFIVE OF CLUBScSIX OF CLUBScSEVEN OF CLUBScEIGHT OF CLUBS",
  "cNINE OF CLUBScTEN OF CLUBScJACK OF CLUBScKNIGHT OF CLUBScQUEEN OF CLUBScKING OF CLUBS",
  "cWHITE JOKERcFOOLcTRUMP-1cTRUMP-2cTRUMP-3cTRUMP-4cTRUMP-5cTRUMP-6cTRUMP-7cTRUMP-8cTRUMP-9",
  "cTRUMP-10cTRUMP-11cTRUMP-12cTRUMP-13cTRUMP-14cTRUMP-15cTRUMP-16cTRUMP-17cTRUMP-18cTRUMP-19",
  "cTRUMP-20cTRUMP-21:1F100aDIGIT ZERO FULL STOPcCOMMAbONE COMMAbTWO COMMAbTHREE COMMA",
  "bFOUR COMMAbFIVE COMMAbSIX COMMAbSEVEN COMMAbEIGHT COMMAbNINE COMMA",
  "aDINGBAT CIRCLED SANS-SERIF DIGIT ZERObNEGATIVE CIRCLED SANS-SERIF DIGIT ZERO",
  "aCIRCLED ZERO WITH SLASHbANTICLOCKWISE ARROWbDOLLAR SIGN WITH OVERLAID BACKSLASH",
  "aPARENTHESIZED LATIN CAPITAL LETTER AeBeCeDeEeFeGeHeIeJeKeLeMeNeOePeQeReSeTeUeVeWeXeYeZ",
  "aTORTOISE SHELL BRACKETED LATIN CAPITAL LETTER SaCIRCLED ITALIC LATIN CAPITAL LETTER CfRbCD",
  "bWZaCOPYLEFT SYMBOLaSQUARED LATIN CAPITAL LETTER AeBeCeDeEeFeGeHeIeJeKeLeMeNeOePeQeReSeTeUeV",
  "eWeXeYeZbHVbMVbSDbSSbPPVbWCaNEGATIVE CIRCLED LATIN CAPITAL LETTER AfBfCfDfEfFfGfHfIfJfKfLfM",
  "fNfOfPfQfRfSfTfUfVfWfXfYfZaRAISED MC SIGNbMD SIGNbMR SIGNaCIRCLED CC",
  "bC WITH OVERLAID BACKSLASHbHUMAN FIGUREaNEGATIVE SQUARED LATIN CAPITAL LETTER AfBfCfDfEfFfG",
  "fHfIfJfKfLfMfNfOfPfQfRfSfTfUfVfWfXfYfZaCROSSED NEGATIVE SQUARED LATIN CAPITAL LETTER P",
  "aNEGATIVE SQUARED ICcPAcSAcABcWCaSQUARE DJaSQUARED CLbCOOLbFREEbIDbNEWbNGbOKbSOS",
  "bUP WITH EXCLAMATION MARKbVSbTHREE DbSECOND SCREENbTWO KbFOUR KbEIGHT KbFIVE POINT ONE",
  "bSEVEN POINT ONEbTWENTY-TWO POINT TWObSIXTY PbONE HUNDRED TWENTY PbLATIN SMALL LETTER DbHC",
  "bHDRbHI-RESbLOSSLESSbSHVbUHDbVODaMASK WORK SYMBOL:1F1E6aREGIONAL INDICATOR SYMBOL LETTER AeB",
  "eCeDeEeFeGeHeIeJeKeLeMeNeOePeQeReSeTeUeVeWeXeYeZaSQUARE HIRAGANA HOKAaSQUARED KATAKANA KOKO",
  "cSA:1F210bCJK UNIFIED IDEOGRAPH-624BdIDEOGRAPH-5B57dIDEOGRAPH-53CCbKATAKANA DE",
  "bCJK UNIFIED IDEOGRAPH-4E8CdIDEOGRAPH-591AdIDEOGRAPH-89E3dIDEOGRAPH-5929dIDEOGRAPH-4EA4",
  "dIDEOGRAPH-6620dIDEOGRAPH-7121dIDEOGRAPH-6599dIDEOGRAPH-524DdIDEOGRAPH-5F8CdIDEOGRAPH-518D",
  "dIDEOGRAPH-65B0dIDEOGRAPH-521DdIDEOGRAPH-7D42dIDEOGRAPH-751FdIDEOGRAPH-8CA9dIDEOGRAPH-58F0",
  "dIDEOGRAPH-5439dIDEOGRAPH-6F14dIDEOGRAPH-6295dIDEOGRAPH-6355dIDEOGRAPH-4E00dIDEOGRAPH-4E09",
  "dIDEOGRAPH-904AdIDEOGRAPH-5DE6dIDEOGRAPH-4E2DdIDEOGRAPH-53F3dIDEOGRAPH-6307dIDEOGRAPH-8D70",
  "dIDEOGRAPH-6253dIDEOGRAPH-7981dIDEOGRAPH-7A7AdIDEOGRAPH-5408dIDEOGRAPH-6E80dIDEOGRAPH-6709",
  "dIDEOGRAPH-6708dIDEOGRAPH-7533dIDEOGRAPH-5272dIDEOGRAPH-55B6dIDEOGRAPH-914D",
  ":1F240aTORTOISE SHELL BRACKETED CJK UNIFIED IDEOGRAPH-672CfIDEOGRAPH-4E09fIDEOGRAPH-4E8C",
  "fIDEOGRAPH-5B89fIDEOGRAPH-70B9fIDEOGRAPH-6253fIDEOGRAPH-76D7fIDEOGRAPH-52DDfIDEOGRAPH-6557",
  ":1F250aCIRCLED IDEOGRAPH ADVANTAGEcACCEPT:1F260aROUNDED SYMBOL FOR FUdLUdSHOUdXIdSHUANGXI",
  "dCAI:1F300aCYCLONEaFOGGYaCLOSED UMBRELLAaNIGHT WITH STARSaSUNRISE OVER MOUNTAINSaSUNRISE",
  "aCITYSCAPE AT DUSKaSUNSET OVER BUILDINGSaRAINBOWaBRIDGE AT NIGHTaWATER WAVEaVOLCANO",
  "aMILKY WAYaEARTH GLOBE EUROPE-AFRICAcAMERICAScASIA-AUSTRALIAaGLOBE WITH MERIDIANS",
  "aNEW MOON SYMBOLaWAXING CRESCENT MOON SYMBOLaFIRST QUARTER MOON SYMBOL",
  "aWAXING GIBBOUS MOON SYMBOLaFULL MOON SYMBOLaWANING GIBBOUS MOON SYMBOL",
  "aLAST QUARTER MOON SYMBOLaWANING CRESCENT MOON SYMBOLaCRESCENT MOONaNEW MOON WITH FACE",
  "aFIRST QUARTER MOON WITH FACEaLAST QUARTER MOON WITH FACEaFULL MOON WITH FACEaSUN WITH FACE",
  "aGLOWING STARaSHOOTING STARaTHERMOMETERaBLACK DROPLETaWHITE SUNcWITH SMALL CLOUD",
  "cBEHIND CLOUDeWITH RAINaCLOUD WITH RAINcSNOWcLIGHTNINGcTORNADOaFOGaWIND BLOWING FACEaHOT DOG",
  "aTACOaBURRITOaCHESTNUTaSEEDLINGaEVERGREEN TREEaDECIDUOUS TREEaPALM TREEaCACTUSaHOT PEPPER",
  "aTULIPaCHERRY BLOSSOMaROSEaHIBISCUSaSUNFLOWERaBLOSSOMaEAR OF MAIZEcRICEaHERB",
  "aFOUR LEAF CLOVERaMAPLE LEAFaFALLEN LEAFaLEAF FLUTTERING IN WINDaMUSHROOMaTOMATOaAUBERGINE",
  "aGRAPESaMELONaWATERMELONaTANGERINEaLEMONaBANANAaPINEAPPLEaRED APPLEaGREEN APPLEaPEARaPEACH",
  "aCHERRIESaSTRAWBERRYaHAMBURGERaSLICE OF PIZZAaMEAT ON BONEaPOULTRY LEGaRICE CRACKERbBALL",
  "aCOOKED RICEaCURRY AND RICEaSTEAMING BOWLaSPAGHETTIaBREADaFRENCH FRIESaROASTED SWEET POTATO",
  "aDANGOaODENaSUSHIaFRIED SHRIMPaFISH CAKE WITH SWIRL DESIGNaSOFT ICE CREAMaSHAVED ICE",
  "aICE CREAMaDOUGHNUTaCOOKIEaCHOCOLATE BARaCANDYaLOLLIPOPaCUSTARDaHONEY POTaSHORTCAKE",
  "aBENTO BOXaPOT OF FOODaCOOKINGaFORK AND KNIFEaTEACUP WITHOUT HANDLEaSAKE BOTTLE AND CUP",
  "aWINE GLASSaCOCKTAIL GLASSaTROPICAL DRINKaBEER MUGaCLINKING BEER MUGSaBABY BOTTLE",
  "aFORK AND KNIFE WITH PLATEaBOTTLE WITH POPPING CORKaPOPCORNaRIBBONaWRAPPED PRESENT",
  "aBIRTHDAY CAKEaJACK-O-LANTERNaCHRISTMAS TREEaFATHER CHRISTMASaFIREWORKSaFIREWORK SPARKLER",
  "aBALLOONaPARTY POPPERaCONFETTI BALLaTANABATA TREEaCROSSED FLAGSaPINE DECORATION",
  "aJAPANESE DOLLSaCARP STREAMERaWIND CHIMEaMOON VIEWING CEREMONYaSCHOOL SATCHELaGRADUATION CAP",
  "aHEART WITH TIP ON THE LEFTaBOUQUET OF FLOWERSaMILITARY MEDALaREMINDER RIBBON",
  "aMUSICAL KEYBOARD WITH JACKSaSTUDIO MICROPHONEaLEVEL SLIDERaCONTROL KNOBS",
  "aBEAMED ASCENDING MUSICAL NOTESbDESCENDING MUSICAL NOTESaFILM FRAMESaADMISSION TICKETS",
  "aCAROUSEL HORSEaFERRIS WHEELaROLLER COASTERaFISHING POLE AND FISHaMICROPHONEaMOVIE CAMERA",
  "aCINEMAaHEADPHONEaARTIST PALETTEaTOP HATaCIRCUS TENTaTICKETaCLAPPER BOARDaPERFORMING ARTS",
  "aVIDEO GAMEaDIRECT HITaSLOT MACHINEaBILLIARDSaGAME DIEaBOWLINGaFLOWER PLAYING CARDS",
  "aMUSICAL NOTEaMULTIPLE MUSICAL NOTESaSAXOPHONEaGUITARaMUSICAL KEYBOARDaTRUMPETaVIOLIN",
  "aMUSICAL SCOREaRUNNING SHIRT WITH SASHaTENNIS RACQUET AND BALLaSKI AND SKI BOOT",
  "aBASKETBALL AND HOOPaCHEQUERED FLAGaSNOWBOARDERaRUNNERaSURFERaSPORTS MEDALaTROPHY",
  "aHORSE RACINGaAMERICAN FOOTBALLaRUGBY FOOTBALLaSWIMMERaWEIGHT LIFTERaGOLFER",
  "aRACING MOTORCYCLEbCARaCRICKET BAT AND BALLaVOLLEYBALLaFIELD HOCKEY STICK AND BALL",
  "aICE HOCKEY STICK AND PUCKaTABLE TENNIS PADDLE AND BALLaSNOW CAPPED MOUNTAINaCAMPING",
  "aBEACH WITH UMBRELLAaBUILDING CONSTRUCTIONaHOUSE BUILDINGSaCITYSCAPEaDERELICT HOUSE BUILDING",
  "aCLASSICAL BUILDINGaDESERTbISLANDaNATIONAL PARKaSTADIUMaHOUSE BUILDINGbWITH GARDEN",
  "aOFFICE BUILDINGaJAPANESE POST OFFICEaEUROPEAN POST OFFICEaHOSPITALaBANK",
  "aAUTOMATED TELLER MACHINEaHOTELaLOVE HOTELaCONVENIENCE STOREaSCHOOLaDEPARTMENT STOREaFACTORY",
  "aIZAKAYA LANTERNaJAPANESE CASTLEaEUROPEAN CASTLEaWHITE PENNANTaBLACK PENNANT",
  "aWAVING WHITE FLAGbBLACK FLAGaROSETTEaBLACK ROSETTEaLABELaBADMINTON RACQUET AND SHUTTLECOCK",
  "aBOW AND ARROWaAMPHORAaEMOJI MODIFIER FITZPATRICK TYPE-1-2dTYPE-3dTYPE-4dTYPE-5dTYPE-6aRAT",
  "aMOUSEaOXaWATER BUFFALOaCOWaTIGERaLEOPARDaRABBITaCATaDRAGONaCROCODILEaWHALEaSNAILaSNAKE",
  "aHORSEaRAMaGOATaSHEEPaMONKEYaROOSTERaCHICKENaDOGaPIGaBOARaELEPHANTaOCTOPUSaSPIRAL SHELLaBUG",
  "aANTaHONEYBEEaLADY BEETLEaFISHaTROPICAL FISHaBLOWFISHaTURTLEaHATCHING CHICKaBABY CHICK",
  "aFRONT-FACING BABY CHICKaBIRDaPENGUINaKOALAaPOODLEaDROMEDARY CAMELaBACTRIAN CAMELaDOLPHIN",
  "aMOUSE FACEaCOW FACEaTIGER FACEaRABBIT FACEaCAT FACEaDRAGON FACEaSPOUTING WHALEaHORSE FACE",
  "aMONKEY FACEaDOG FACEaPIG FACEaFROG FACEaHAMSTER FACEaWOLF FACEaBEAR FACEaPANDA FACE",
  "aPIG NOSEaPAW PRINTSaCHIPMUNKaEYESaEYEaEARaNOSEaMOUTHaTONGUE",
  "aWHITE UP POINTING BACKHAND INDEXbDOWN POINTING BACKHAND INDEXbLEFT POINTING BACKHAND INDEX",
  "bRIGHT POINTING BACKHAND INDEXaFISTED HAND SIGNaWAVING HAND SIGNaOK HAND SIGNaTHUMBS UP SIGN",
  "bDOWN SIGNaCLAPPING HANDS SIGNaOPEN HANDS SIGNaCROWNaWOMANS HATaEYEGLASSESaNECKTIEaT-SHIRT",
  "aJEANSaDRESSaKIMONOaBIKINIaWOMANS CLOTHESaPURSEaHANDBAGaPOUCHaMANS SHOEaATHLETIC SHOE",
  "aHIGH-HEELED SHOEaWOMANS SANDALbBOOTSaFOOTPRINTSaBUST IN SILHOUETTEaBUSTS IN SILHOUETTEaBOY",
  "aGIRLaMANaWOMANaFAMILYaMAN AND WOMAN HOLDING HANDSaTWO MEN HOLDING HANDSbWOMEN HOLDING HANDS",
  "aPOLICE OFFICERaWOMAN WITH BUNNY EARSaBRIDE WITH VEILaPERSON WITH BLOND HAIR",
  "aMAN WITH GUA PI MAOcTURBANaOLDER MANbWOMANaBABYaCONSTRUCTION WORKERaPRINCESSaJAPANESE OGRE",
  "bGOBLINaGHOSTaBABY ANGELaEXTRATERRESTRIAL ALIENaALIEN MONSTERaIMPaSKULL",
  "aINFORMATION DESK PERSONaGUARDSMANaDANCERaLIPSTICKaNAIL POLISHaFACE MASSAGEaHAIRCUT",
  "aBARBER POLEaSYRINGEaPILLaKISS MARKaLOVE LETTERaRINGaGEM STONEaKISSaBOUQUET",
  "aCOUPLE WITH HEARTaWEDDINGaBEATING HEARTaBROKEN HEARTaTWO HEARTSaSPARKLING HEART",
  "aGROWING HEARTaHEART WITH ARROWaBLUE HEARTaGREEN HEARTaYELLOW HEARTaPURPLE HEART",
  "aHEART WITH RIBBONaREVOLVING HEARTSaHEART DECORATIONaDIAMOND SHAPE WITH A DOT INSIDE",
  "aELECTRIC LIGHT BULBaANGER SYMBOLaBOMBaSLEEPING SYMBOLaCOLLISION SYMBOL",
  "aSPLASHING SWEAT SYMBOLaDROPLETaDASH SYMBOLaPILE OF POOaFLEXED BICEPSaDIZZY SYMBOL",
  "aSPEECH BALLOONaTHOUGHT BALLOONaWHITE FLOWERaHUNDRED POINTS SYMBOLaMONEY BAG",
  "aCURRENCY EXCHANGEaHEAVY DOLLAR SIGNaCREDIT CARDaBANKNOTE WITH YEN SIGNcDOLLAR SIGN",
  "cEURO SIGNcPOUND SIGNaMONEY WITH WINGSaCHART WITH UPWARDS TREND AND YEN SIGNaSEAT",
  "aPERSONAL COMPUTERaBRIEFCASEaMINIDISCaFLOPPY DISKaOPTICAL DISCaDVDaFILE FOLDER",
  "aOPEN FILE FOLDERaPAGE WITH CURLbFACING UPaCALENDARaTEAR-OFF CALENDARaCARD INDEX",
  "aCHART WITH UPWARDS TRENDcDOWNWARDS TRENDaBAR CHARTaCLIPBOARDaPUSHPINaROUND PUSHPIN",
  "aPAPERCLIPaSTRAIGHT RULERaTRIANGULAR RULERaBOOKMARK TABSaLEDGERaNOTEBOOK",
  "bWITH DECORATIVE COVERaCLOSED BOOKaOPEN BOOKaGREEN BOOKaBLUE BOOKaORANGE BOOKaBOOKS",
  "aNAME BADGEaSCROLLaMEMOaTELEPHONE RECEIVERaPAGERaFAX MACHINEaSATELLITE ANTENNA",
  "aPUBLIC ADDRESS LOUDSPEAKERaCHEERING MEGAPHONEaOUTBOX TRAYaINBOX TRAYaPACKAGEaE-MAIL SYMBOL",
  "aINCOMING ENVELOPEaENVELOPE WITH DOWNWARDS ARROW ABOVEaCLOSED MAILBOX WITH LOWERED FLAG",
  "dRAISED FLAGaOPEN MAILBOX WITH RAISED FLAGdLOWERED FLAGaPOSTBOXaPOSTAL HORNaNEWSPAPER",
  "aMOBILE PHONEcWITH RIGHTWARDS ARROW AT LEFTaVIBRATION MODEaMOBILE PHONE OFFaNO MOBILE PHONES",
  "aANTENNA WITH BARSaCAMERAbWITH FLASHaVIDEO CAMERAaTELEVISIONaRADIOaVIDEOCASSETTE",
  "aFILM PROJECTORaPORTABLE STEREOaPRAYER BEADSaTWISTED RIGHTWARDS ARROWS",
  "aCLOCKWISE RIGHTWARDS AND LEFTWARDS OPEN CIRCLE ARROWShWITH CIRCLED ONE OVERLAY",
  "bDOWNWARDS AND UPWARDS OPEN CIRCLE ARROWS",
  "aANTICLOCKWISE DOWNWARDS AND UPWARDS OPEN CIRCLE ARROWSaLOW BRIGHTNESS SYMBOL",
  "aHIGH BRIGHTNESS SYMBOLaSPEAKER WITH CANCELLATION STROKEaSPEAKERbWITH ONE SOUND WAVE",
  "cTHREE SOUND WAVESaBATTERYaELECTRIC PLUGaLEFT-POINTING MAGNIFYING GLASS",
  "aRIGHT-POINTING MAGNIFYING GLASSaLOCK WITH INK PENaCLOSED LOCK WITH KEYaKEYaLOCKaOPEN LOCK",
  "aBELLbWITH CANCELLATION STROKEaBOOKMARKaLINK SYMBOLaRADIO BUTTON",
  "aBACK WITH LEFTWARDS ARROW ABOVEaEND WITH LEFTWARDS ARROW ABOVE",
  "aON WITH EXCLAMATION MARK WITH LEFT RIGHT ARROW ABOVEaSOON WITH RIGHTWARDS ARROW ABOVE",
  "aTOP WITH UPWARDS ARROW ABOVEaNO ONE UNDER EIGHTEEN SYMBOLaKEYCAP TEN",
  "aINPUT SYMBOL FOR LATIN CAPITAL LETTERSeSMALL LETTERSdNUMBERSdSYMBOLSdLATIN LETTERSaFIRE",
  "aELECTRIC TORCHaWRENCHaHAMMERaNUT AND BOLTaHOCHOaPISTOLaMICROSCOPEaTELESCOPEaCRYSTAL BALL",
  "aSIX POINTED STAR WITH MIDDLE DOTaJAPANESE SYMBOL FOR BEGINNERaTRIDENT EMBLEM",
  "aBLACK SQUARE BUTTONaWHITE SQUARE BUTTONaLARGE RED CIRCLEbBLUE CIRCLEbORANGE DIAMOND",
  "bBLUE DIAMONDaSMALL ORANGE DIAMONDbBLUE DIAMONDaUP-POINTING RED TRIANGLE",
  "aDOWN-POINTING RED TRIANGLEaUP-POINTING SMALL RED TRIANGLEaDOWN-POINTING SMALL RED TRIANGLE",
  "aLOWER RIGHT SHADOWED WHITE CIRCLEaUPPER RIGHT SHADOWED WHITE CIRCLEaCIRCLED CROSS POMMEE",
  "aCROSS POMMEE WITH HALF-CIRCLE BELOWbPOMMEEaNOTCHED LEFT SEMICIRCLE WITH THREE DOTS",
  "bRIGHT SEMICIRCLE WITH THREE DOTSaSYMBOL FOR MARKS CHAPTERaWHITE LATIN CROSS",
  "aHEAVY LATIN CROSSaCELTIC CROSSaOM SYMBOLaDOVE OF PEACEaKAABAaMOSQUEaSYNAGOGUE",
  "aMENORAH WITH NINE BRANCHESaBOWL OF HYGIEIAaCLOCK FACE ONE OCLOCKcTWO OCLOCKcTHREE OCLOCK",
  "cFOUR OCLOCKcFIVE OCLOCKcSIX OCLOCKcSEVEN OCLOCKcEIGHT OCLOCKcNINE OCLOCKcTEN OCLOCK",
  "cELEVEN OCLOCKcTWELVE OCLOCKcONE-THIRTYcTWO-THIRTYcTHREE-THIRTYcFOUR-THIRTYcFIVE-THIRTY",
  "cSIX-THIRTYcSEVEN-THIRTYcEIGHT-THIRTYcNINE-THIRTYcTEN-THIRTYcELEVEN-THIRTYcTWELVE-THIRTY",
  "aRIGHT SPEAKERcWITH ONE SOUND WAVEdTHREE SOUND WAVESaBULLHORNbWITH SOUND WAVESaRINGING BELL",
  "aBOOKaCANDLEaMANTELPIECE CLOCKaBLACK SKULL AND CROSSBONESaNO PIRACYaHOLE",
  "aMAN IN BUSINESS SUIT LEVITATINGaSLEUTH OR SPYaDARK SUNGLASSESaSPIDERbWEBaJOYSTICK",
  "aMAN DANCINGaLEFT HAND TELEPHONE RECEIVERaTELEPHONE RECEIVER WITH PAGE",
  "aRIGHT HAND TELEPHONE RECEIVERaWHITE TOUCHTONE TELEPHONEaBLACK TOUCHTONE TELEPHONE",
  "aTELEPHONE ON TOP OF MODEMaCLAMSHELL MOBILE PHONEaBACK OF ENVELOPEaSTAMPED ENVELOPE",
  "aENVELOPE WITH LIGHTNINGaFLYING ENVELOPEaPEN OVER STAMPED ENVELOPEaLINKED PAPERCLIPS",
  "aBLACK PUSHPINaLOWER LEFT PENCILcBALLPOINT PENcFOUNTAIN PENcPAINTBRUSHcCRAYON",
  "aLEFT WRITING HANDaTURNED OK HAND SIGNaRAISED HAND WITH FINGERS SPLAYED",
  "aREVERSED RAISED HAND WITH FINGERS SPLAYEDbTHUMBS UP SIGNcDOWN SIGNbVICTORY HAND",
  "bHAND WITH MIDDLE FINGER EXTENDEDaRAISED HAND WITH PART BETWEEN MIDDLE AND RING FINGERS",
  "aWHITE DOWN POINTING LEFT HAND INDEXaSIDEWAYS WHITE LEFT POINTING INDEXcRIGHT POINTING INDEX",
  "bBLACK LEFT POINTING INDEXcRIGHT POINTING INDEXaBLACK LEFT POINTING BACKHAND INDEX",
  "bRIGHT POINTING BACKHAND INDEXaSIDEWAYS WHITE UP POINTING INDEXcDOWN POINTING INDEX",
  "bBLACK UP POINTING INDEXcDOWN POINTING INDEXaBLACK UP POINTING BACKHAND INDEX",
  "bDOWN POINTING BACKHAND INDEXbHEARTaDESKTOP COMPUTERaKEYBOARD AND MOUSE",
  "aTHREE NETWORKED COMPUTERSaPRINTERaPOCKET CALCULATORaBLACK HARD SHELL FLOPPY DISK",
  "aWHITE HARD SHELL FLOPPY DISKaSOFT SHELL FLOPPY DISKaTAPE CARTRIDGEaWIRED KEYBOARD",
  "aONE BUTTON MOUSEaTWO BUTTON MOUSEaTHREE BUTTON MOUSEaTRACKBALLaOLD PERSONAL COMPUTER",
  "aHARD DISKaSCREENaPRINTER ICONaFAX ICONaOPTICAL DISC ICONaDOCUMENT WITH TEXTdAND PICTURE",
  "cPICTUREaFRAME WITH PICTUREcTILEScAN XaBLACK FOLDERaFOLDERaOPEN FOLDERaCARD INDEX DIVIDERS",
  "bFILE BOXaFILE CABINETaEMPTY NOTEcPAGEcPADaNOTEbPAGEbPADaEMPTY DOCUMENTbPAGEbPAGESaDOCUMENT",
  "aPAGEaPAGESaWASTEBASKETaSPIRAL NOTE PADbCALENDAR PADaDESKTOP WINDOWaMINIMIZEaMAXIMIZE",
  "aOVERLAPaCLOCKWISE RIGHT AND LEFT SEMICIRCLE ARROWSaCANCELLATION XaINCREASE FONT SIZE SYMBOL",
  "aDECREASE FONT SIZE SYMBOLaCOMPRESSIONaOLD KEYaROLLED-UP NEWSPAPERaPAGE WITH CIRCLED TEXT",
  "aSTOCK CHARTaDAGGER KNIFEaLIPSaSPEAKING HEAD IN SILHOUETTEaTHREE RAYS ABOVEcBELOWcLEFTcRIGHT",
  "aLEFT SPEECH BUBBLEaRIGHT SPEECH BUBBLEaTWO SPEECH BUBBLESaTHREE SPEECH BUBBLES",
  "aLEFT THOUGHT BUBBLEaRIGHT THOUGHT BUBBLEaLEFT ANGER BUBBLEaRIGHT ANGER BUBBLEaMOOD BUBBLE",
  "aLIGHTNING MOOD BUBBLEbMOODaBALLOT BOX WITH BALLOTbSCRIPT XbBOX WITH SCRIPT XbBOLD SCRIPT X",
  "bBOX WITH BOLD SCRIPT XaLIGHT CHECK MARKaBALLOT BOX WITH BOLD CHECKaWORLD MAPaMOUNT FUJI",
  "aTOKYO TOWERaSTATUE OF LIBERTYaSILHOUETTE OF JAPANaMOYAIaGRINNING FACEcWITH SMILING EYES",
  "aFACE WITH TEARS OF JOYaSMILING FACE WITH OPEN MOUTHfAND SMILING EYESgCOLD SWEAT",
  "gTIGHTLY-CLOSED EYESdHALOdHORNSaWINKING FACEaSMILING FACE WITH SMILING EYES",
  "aFACE SAVOURING DELICIOUS FOODaRELIEVED FACEaSMILING FACE WITH HEART-SHAPED EYESdSUNGLASSES",
  "aSMIRKING FACEaNEUTRAL FACEaEXPRESSIONLESS FACEaUNAMUSED FACEaFACE WITH COLD SWEAT",
  "aPENSIVE FACEaCONFUSED FACEaCONFOUNDED FACEaKISSING FACEaFACE THROWING A KISS",
  "aKISSING FACE WITH SMILING EYESdCLOSED EYESaFACE WITH STUCK-OUT TONGUEeAND WINKING EYE",
  "fTIGHTLY-CLOSED EYESaDISAPPOINTED FACEaWORRIED FACEaANGRY FACEaPOUTING FACEaCRYING FACE",
  "aPERSEVERING FACEaFACE WITH LOOK OF TRIUMPHaDISAPPOINTED BUT RELIEVED FACE",
  "aFROWNING FACE WITH OPEN MOUTHaANGUISHED FACEaFEARFUL FACEaWEARY FACEaSLEEPY FACEaTIRED FACE",
  "aGRIMACING FACEaLOUDLY CRYING FACEaFACE WITH OPEN MOUTHaHUSHED FACE",
  "aFACE WITH OPEN MOUTH AND COLD SWEATbSCREAMING IN FEARaASTONISHED FACEaFLUSHED FACE",
  "aSLEEPING FACEaDIZZY FACEaFACE WITHOUT MOUTHbWITH MEDICAL MASK",
  "aGRINNING CAT FACE WITH SMILING EYESaCAT FACE WITH TEARS OF JOY",
  "aSMILING CAT FACE WITH OPEN MOUTHeHEART-SHAPED EYESaCAT FACE WITH WRY SMILE",
  "aKISSING CAT FACE WITH CLOSED EYESaPOUTING CAT FACEaCRYING CAT FACEaWEARY CAT FACE",
  "aSLIGHTLY FROWNING FACEbSMILING FACEaUPSIDE-DOWN FACEaFACE WITH ROLLING EYEScNO GOOD GESTURE",
  "cOK GESTUREaPERSON BOWING DEEPLYaSEE-NO-EVIL MONKEYaHEAR-NO-EVIL MONKEYaSPEAK-NO-EVIL MONKEY",
  "aHAPPY PERSON RAISING ONE HANDaPERSON RAISING BOTH HANDS IN CELEBRATIONbFROWNING",
  "bWITH POUTING FACEcFOLDED HANDSaNORTH WEST POINTING LEAFaSOUTH WEST POINTING LEAF",
  "aNORTH EAST POINTING LEAFaSOUTH EAST POINTING LEAFaTURNED NORTH WEST POINTING LEAF",
  "bSOUTH WEST POINTING LEAFbNORTH EAST POINTING LEAFbSOUTH EAST POINTING LEAF",
  "aNORTH WEST POINTING VINE LEAFaSOUTH WEST POINTING VINE LEAFaNORTH EAST POINTING VINE LEAF",
  "aSOUTH EAST POINTING VINE LEAFaHEAVY NORTH WEST POINTING VINE LEAF",
  "bSOUTH WEST POINTING VINE LEAFbNORTH EAST POINTING VINE LEAFbSOUTH EAST POINTING VINE LEAF",
  "aNORTH WEST POINTING BUDaSOUTH WEST POINTING BUDaNORTH EAST POINTING BUD",
  "aSOUTH EAST POINTING BUDaHEAVY NORTH WEST POINTING BUDbSOUTH WEST POINTING BUD",
  "bNORTH EAST POINTING BUDbSOUTH EAST POINTING BUDaHOLLOW QUILT SQUARE ORNAMENT",
  "eIN BLACK SQUAREaSOLID QUILT SQUARE ORNAMENTeIN BLACK SQUAREaLEFTWARDS ROCKETaUPWARDS ROCKET",
  "aRIGHTWARDS ROCKETaDOWNWARDS ROCKETaSCRIPT LIGATURE ET ORNAMENT",
  "aHEAVY SCRIPT LIGATURE ET ORNAMENTaLIGATURE OPEN ET ORNAMENTaHEAVY LIGATURE OPEN ET ORNAMENT",
  "bAMPERSAND ORNAMENTaSWASH AMPERSAND ORNAMENT",
  "aSANS-SERIF HEAVY DOUBLE TURNED COMMA QUOTATION MARK ORNAMENTdCOMMA QUOTATION MARK ORNAMENT",
  "cLOW DOUBLE COMMA QUOTATION MARK ORNAMENTaHEAVY INTERROBANG ORNAMENT",
  "aSANS-SERIF INTERROBANG ORNAMENTaHEAVY SANS-SERIF INTERROBANG ORNAMENTaVERY HEAVY SOLIDUS",
  "cREVERSE SOLIDUSaCHECKER BOARDaREVERSE CHECKER BOARDaROCKETaHELICOPTERaSTEAM LOCOMOTIVE",
  "aRAILWAY CARaHIGH-SPEED TRAINcWITH BULLET NOSEaTRAINaMETROaLIGHT RAILaSTATIONaTRAMbCARaBUS",
  "aONCOMING BUSaTROLLEYBUSaBUS STOPaMINIBUSaAMBULANCEaFIRE ENGINEaPOLICE CAR",
  "aONCOMING POLICE CARaTAXIaONCOMING TAXIaAUTOMOBILEaONCOMING AUTOMOBILEaRECREATIONAL VEHICLE",
  "aDELIVERY TRUCKaARTICULATED LORRYaTRACTORaMONORAILaMOUNTAIN RAILWAYaSUSPENSION RAILWAY",
  "aMOUNTAIN CABLEWAYaAERIAL TRAMWAYaSHIPaROWBOATaSPEEDBOATaHORIZONTAL TRAFFIC LIGHT",
  "aVERTICAL TRAFFIC LIGHTaCONSTRUCTION SIGNaPOLICE CARS REVOLVING LIGHT",
  "aTRIANGULAR FLAG ON POSTaDOORaNO ENTRY SIGNaSMOKING SYMBOLaNO SMOKING SYMBOL",
  "aPUT LITTER IN ITS PLACE SYMBOLaDO NOT LITTER SYMBOLaPOTABLE WATER SYMBOL",
  "aNON-POTABLE WATER SYMBOLaBICYCLEaNO BICYCLESaBICYCLISTaMOUNTAIN BICYCLISTaPEDESTRIAN",
  "aNO PEDESTRIANSaCHILDREN CROSSINGaMENS SYMBOLaWOMENS SYMBOLaRESTROOMaBABY SYMBOLaTOILET",
  "aWATER CLOSETaSHOWERaBATHaBATHTUBaPASSPORT CONTROLaCUSTOMSaBAGGAGE CLAIMaLEFT LUGGAGE",
  "aTRIANGLE WITH ROUNDED CORNERSaPROHIBITED SIGNaCIRCLED INFORMATION SOURCEaBOYS SYMBOL",
  "aGIRLS SYMBOLaCOUCH AND LAMPaSLEEPING ACCOMMODATIONaSHOPPING BAGSaBELLHOP BELLaBED",
  "aPLACE OF WORSHIPaOCTAGONAL SIGNaSHOPPING TROLLEYaSTUPAaPAGODAaHINDU TEMPLEaHUTaELEVATOR",
  ":1F6DDaPLAYGROUND SLIDEaWHEELaRING BUOYaHAMMER AND WRENCHaSHIELDaOIL DRUMaMOTORWAY",
  "aRAILWAY TRACKaMOTOR BOATaUP-POINTING MILITARY AIRPLANEbAIRPLANEbSMALL AIRPLANE",
  "aSMALL AIRPLANEaNORTHEAST-POINTING AIRPLANEaAIRPLANE DEPARTUREbARRIVING:1F6F0aSATELLITE",
  "aONCOMING FIRE ENGINEaDIESEL LOCOMOTIVEaPASSENGER SHIPaSCOOTERaMOTOR SCOOTERaCANOEaSLED",
  "aFLYING SAUCERaSKATEBOARDaAUTO RICKSHAWaPICKUP TRUCKaROLLER SKATE",
  ":1F700aALCHEMICAL SYMBOL FOR QUINTESSENCEdAIRdFIREdEARTHdWATERdAQUAFORTISdAQUA REGIAeREGIA-2",
  "eVITAEeVITAE-2dVINEGARdVINEGAR-2dVINEGAR-3dSULFURdPHILOSOPHERS SULFURdBLACK SULFUR",
  "dMERCURY SUBLIMATEeSUBLIMATE-2eSUBLIMATE-3dCINNABARdSALTdNITREdVITRIOLdVITRIOL-2dROCK SALT",
  "eSALT-2dGOLDdSILVERdIRON OREeORE-2dCROCUS OF IRONdREGULUS OF IRONdCOPPER OREdIRON-COPPER ORE",
  "dSUBLIMATE OF COPPERdCROCUS OF COPPERfCOPPER-2dCOPPER ANTIMONIATEdSALT OF COPPER ANTIMONIATE",
  "dSUBLIMATE OF SALT OF COPPERdVERDIGRISdTIN OREdLEAD OREdANTIMONY OREdSUBLIMATE OF ANTIMONY",
  "dSALT OF ANTIMONYdSUBLIMATE OF SALT OF ANTIMONYdVINEGAR OF ANTIMONYdREGULUS OF ANTIMONY",
  "fANTIMONY-2dREGULUSdREGULUS-2dREGULUS-3dREGULUS-4dALKALIdALKALI-2dMARCASITEdSAL-AMMONIAC",
  "dARSENICdREALGARdREALGAR-2dAURIPIGMENTdBISMUTH OREdTARTARdTARTAR-2dQUICK LIMEdBORAXdBORAX-2",
  "dBORAX-3dALUMdOILdSPIRITdTINCTUREdGUMdWAXdPOWDERdCALXdTUTTYdCAPUT MORTUUMdSCEPTER OF JOVE",
  "dCADUCEUSdTRIDENTdSTARRED TRIDENTdLODESTONEdSOAPdURINEdHORSE DUNGdASHESdPOT ASHESdBRICK",
  "dPOWDERED BRICKdAMALGAMdSTRATUM SUPER STRATUMfSTRATUM-2dSUBLIMATIONdPRECIPITATEdDISTILL",
  "dDISSOLVEdDISSOLVE-2dPURIFYdPUTREFACTIONdCRUCIBLEdCRUCIBLE-2dCRUCIBLE-3dCRUCIBLE-4",
  "dCRUCIBLE-5dALEMBICdBATH OF MARYfVAPOURSdRETORTdHOURdNIGHTdDAY-NIGHTdMONTHdHALF DRAMeOUNCE",
  ":1F780aBLACK LEFT-POINTING ISOSCELES RIGHT TRIANGLEbUP-POINTING ISOSCELES RIGHT TRIANGLE",
  "bRIGHT-POINTING ISOSCELES RIGHT TRIANGLEbDOWN-POINTING ISOSCELES RIGHT TRIANGLE",
  "bSLIGHTLY SMALL CIRCLEaMEDIUM BOLD WHITE CIRCLEaBOLD WHITE CIRCLEaHEAVY WHITE CIRCLE",
  "aVERY HEAVY WHITE CIRCLEaEXTREMELY HEAVY WHITE CIRCLE",
  "aWHITE CIRCLE CONTAINING BLACK SMALL CIRCLEaROUND TARGETaBLACK TINY SQUARE",
  "bSLIGHTLY SMALL SQUAREaLIGHT WHITE SQUAREaMEDIUM WHITE SQUAREaBOLD WHITE SQUARE",
  "aHEAVY WHITE SQUAREaVERY HEAVY WHITE SQUAREaEXTREMELY HEAVY WHITE SQUARE",
  "aWHITE SQUARE CONTAINING BLACK VERY SMALL SQUAREeMEDIUM SQUAREaSQUARE TARGET",
  "aBLACK TINY DIAMONDbVERY SMALL DIAMONDbMEDIUM SMALL DIAMOND",
  "aWHITE DIAMOND CONTAINING BLACK VERY SMALL DIAMONDeMEDIUM DIAMONDaDIAMOND TARGET",
  "aBLACK TINY LOZENGEbVERY SMALL LOZENGEbMEDIUM SMALL LOZENGE",
  "aWHITE LOZENGE CONTAINING BLACK SMALL LOZENGEaTHIN GREEK CROSSaLIGHT GREEK CROSS",
  "aMEDIUM GREEK CROSSaBOLD GREEK CROSSaVERY BOLD GREEK CROSSbHEAVY GREEK CROSS",
  "aEXTREMELY HEAVY GREEK CROSSaTHIN SALTIREaLIGHT SALTIREaMEDIUM SALTIREaBOLD SALTIRE",
  "aHEAVY SALTIREaVERY HEAVY SALTIREaEXTREMELY HEAVY SALTIREaLIGHT FIVE SPOKED ASTERISK",
  "aMEDIUM FIVE SPOKED ASTERISKaBOLD FIVE SPOKED ASTERISKaHEAVY FIVE SPOKED ASTERISK",
  "aVERY HEAVY FIVE SPOKED ASTERISKaEXTREMELY HEAVY FIVE SPOKED ASTERISK",
  "aLIGHT SIX SPOKED ASTERISKaMEDIUM SIX SPOKED ASTERISKaBOLD SIX SPOKED ASTERISK",
  "aHEAVY SIX SPOKED ASTERISKaVERY HEAVY SIX SPOKED ASTERISK",
  "aEXTREMELY HEAVY SIX SPOKED ASTERISKaLIGHT EIGHT SPOKED ASTERISK",
  "aMEDIUM EIGHT SPOKED ASTERISKaBOLD EIGHT SPOKED ASTERISKaHEAVY EIGHT SPOKED ASTERISK",
  "aVERY HEAVY EIGHT SPOKED ASTERISKaLIGHT THREE POINTED BLACK STAR",
  "aMEDIUM THREE POINTED BLACK STARaTHREE POINTED BLACK STARaMEDIUM THREE POINTED PINWHEEL STAR",
  "aLIGHT FOUR POINTED BLACK STARaMEDIUM FOUR POINTED BLACK STARaFOUR POINTED BLACK STAR",
  "aMEDIUM FOUR POINTED PINWHEEL STARaREVERSE LIGHT FOUR POINTED PINWHEEL STAR",
  "aLIGHT FIVE POINTED BLACK STARaHEAVY FIVE POINTED BLACK STARaMEDIUM SIX POINTED BLACK STAR",
  "aHEAVY SIX POINTED BLACK STARaSIX POINTED PINWHEEL STARaMEDIUM EIGHT POINTED BLACK STAR",
  "aHEAVY EIGHT POINTED BLACK STARaVERY HEAVY EIGHT POINTED BLACK STAR",
  "aHEAVY EIGHT POINTED PINWHEEL STARaLIGHT TWELVE POINTED BLACK STAR",
  "aHEAVY TWELVE POINTED BLACK STARdPINWHEEL STARaCIRCLED TRIANGLEaNEGATIVE CIRCLED TRIANGLE",
  "aCIRCLED SQUAREaNEGATIVE CIRCLED SQUARE:1F7E0aLARGE ORANGE CIRCLEbYELLOW CIRCLEbGREEN CIRCLE",
  "bPURPLE CIRCLEbBROWN CIRCLEbRED SQUAREbBLUE SQUAREbORANGE SQUAREbYELLOW SQUAREbGREEN SQUARE",
  "bPURPLE SQUAREbBROWN SQUARE:1F7F0aHEAVY EQUALS SIGN",
  ":1F800aLEFTWARDS ARROW WITH SMALL TRIANGLE ARROWHEAD",
  "aUPWARDS ARROW WITH SMALL TRIANGLE ARROWHEADaRIGHTWARDS ARROW WITH SMALL TRIANGLE ARROWHEAD",
  "aDOWNWARDS ARROW WITH SMALL TRIANGLE ARROWHEAD",
  "aLEFTWARDS ARROW WITH MEDIUM TRIANGLE ARROWHEADaUPWARDS ARROW WITH MEDIUM TRIANGLE ARROWHEAD",
  "aRIGHTWARDS ARROW WITH MEDIUM TRIANGLE ARROWHEAD",
  "aDOWNWARDS ARROW WITH MEDIUM TRIANGLE ARROWHEAD",
  "aLEFTWARDS ARROW WITH LARGE TRIANGLE ARROWHEADaUPWARDS ARROW WITH LARGE TRIANGLE ARROWHEAD",
  "aRIGHTWARDS ARROW WITH LARGE TRIANGLE ARROWHEAD",
  "aDOWNWARDS ARROW WITH LARGE TRIANGLE ARROWHEAD",
  ":1F810aLEFTWARDS ARROW WITH SMALL EQUILATERAL ARROWHEAD",
  "aUPWARDS ARROW WITH SMALL EQUILATERAL ARROWHEAD",
  "aRIGHTWARDS ARROW WITH SMALL EQUILATERAL ARROWHEAD",
  "aDOWNWARDS ARROW WITH SMALL EQUILATERAL ARROWHEADaLEFTWARDS ARROW WITH EQUILATERAL ARROWHEAD",
  "aUPWARDS ARROW WITH EQUILATERAL ARROWHEADaRIGHTWARDS ARROW WITH EQUILATERAL ARROWHEAD",
  "aDOWNWARDS ARROW WITH EQUILATERAL ARROWHEADaHEAVY LEFTWARDS ARROW WITH EQUILATERAL ARROWHEAD",
  "bUPWARDS ARROW WITH EQUILATERAL ARROWHEADbRIGHTWARDS ARROW WITH EQUILATERAL ARROWHEAD",
  "bDOWNWARDS ARROW WITH EQUILATERAL ARROWHEADbLEFTWARDS ARROW WITH LARGE EQUILATERAL ARROWHEAD",
  "bUPWARDS ARROW WITH LARGE EQUILATERAL ARROWHEAD",
  "bRIGHTWARDS ARROW WITH LARGE EQUILATERAL ARROWHEAD",
  "bDOWNWARDS ARROW WITH LARGE EQUILATERAL ARROWHEAD",
  "aLEFTWARDS TRIANGLE-HEADED ARROW WITH NARROW SHAFT",
  "aUPWARDS TRIANGLE-HEADED ARROW WITH NARROW SHAFT",
  "aRIGHTWARDS TRIANGLE-HEADED ARROW WITH NARROW SHAFT",
  "aDOWNWARDS TRIANGLE-HEADED ARROW WITH NARROW SHAFT",
  "aLEFTWARDS TRIANGLE-HEADED ARROW WITH MEDIUM SHAFT",
  "aUPWARDS TRIANGLE-HEADED ARROW WITH MEDIUM SHAFT",
  "aRIGHTWARDS TRIANGLE-HEADED ARROW WITH MEDIUM SHAFT",
  "aDOWNWARDS TRIANGLE-HEADED ARROW WITH MEDIUM SHAFT",
  "aLEFTWARDS TRIANGLE-HEADED ARROW WITH BOLD SHAFT",
  "aUPWARDS TRIANGLE-HEADED ARROW WITH BOLD SHAFT",
  "aRIGHTWARDS TRIANGLE-HEADED ARROW WITH BOLD SHAFT",
  "aDOWNWARDS TRIANGLE-HEADED ARROW WITH BOLD SHAFT",
  "aLEFTWARDS TRIANGLE-HEADED ARROW WITH HEAVY SHAFT",
  "aUPWARDS TRIANGLE-HEADED ARROW WITH HEAVY SHAFT",
  "aRIGHTWARDS TRIANGLE-HEADED ARROW WITH HEAVY SHAFT",
  "aDOWNWARDS TRIANGLE-HEADED ARROW WITH HEAVY SHAFT",
  "aLEFTWARDS TRIANGLE-HEADED ARROW WITH VERY HEAVY SHAFT",
  "aUPWARDS TRIANGLE-HEADED ARROW WITH VERY HEAVY SHAFT",
  "aRIGHTWARDS TRIANGLE-HEADED ARROW WITH VERY HEAVY SHAFT",
  "aDOWNWARDS TRIANGLE-HEADED ARROW WITH VERY HEAVY SHAFTaLEFTWARDS FINGER-POST ARROW",
  "aUPWARDS FINGER-POST ARROWaRIGHTWARDS FINGER-POST ARROWaDOWNWARDS FINGER-POST ARROW",
  "aLEFTWARDS SQUARED ARROWaUPWARDS SQUARED ARROWaRIGHTWARDS SQUARED ARROW",
  "aDOWNWARDS SQUARED ARROWaLEFTWARDS COMPRESSED ARROWaUPWARDS COMPRESSED ARROW",
  "aRIGHTWARDS COMPRESSED ARROWaDOWNWARDS COMPRESSED ARROWaLEFTWARDS HEAVY COMPRESSED ARROW",
  "aUPWARDS HEAVY COMPRESSED ARROWaRIGHTWARDS HEAVY COMPRESSED ARROW",
  "aDOWNWARDS HEAVY COMPRESSED ARROWaLEFTWARDS HEAVY ARROWaUPWARDS HEAVY ARROW",
  "aRIGHTWARDS HEAVY ARROWaDOWNWARDS HEAVY ARROW:1F850aLEFTWARDS SANS-SERIF ARROW",
  "aUPWARDS SANS-SERIF ARROWaRIGHTWARDS SANS-SERIF ARROWaDOWNWARDS SANS-SERIF ARROW",
  "aNORTH WEST SANS-SERIF ARROWbEAST SANS-SERIF ARROWaSOUTH EAST SANS-SERIF ARROW",
  "bWEST SANS-SERIF ARROWaLEFT RIGHT SANS-SERIF ARROWaUP DOWN SANS-SERIF ARROW",
  ":1F860aWIDE-HEADED LEFTWARDS LIGHT BARB ARROWbUPWARDS LIGHT BARB ARROW",
  "bRIGHTWARDS LIGHT BARB ARROWbDOWNWARDS LIGHT BARB ARROWbNORTH WEST LIGHT BARB ARROW",
  "cEAST LIGHT BARB ARROWbSOUTH EAST LIGHT BARB ARROWcWEST LIGHT BARB ARROW",
  "bLEFTWARDS BARB ARROWbUPWARDS BARB ARROWbRIGHTWARDS BARB ARROWbDOWNWARDS BARB ARROW",
  "bNORTH WEST BARB ARROWcEAST BARB ARROWbSOUTH EAST BARB ARROWcWEST BARB ARROW",
  "bLEFTWARDS MEDIUM BARB ARROWbUPWARDS MEDIUM BARB ARROWbRIGHTWARDS MEDIUM BARB ARROW",
  "bDOWNWARDS MEDIUM BARB ARROWbNORTH WEST MEDIUM BARB ARROWcEAST MEDIUM BARB ARROW",
  "bSOUTH EAST MEDIUM BARB ARROWcWEST MEDIUM BARB ARROWbLEFTWARDS HEAVY BARB ARROW",
  "bUPWARDS HEAVY BARB ARROWbRIGHTWARDS HEAVY BARB ARROWbDOWNWARDS HEAVY BARB ARROW",
  "bNORTH WEST HEAVY BARB ARROWcEAST HEAVY BARB ARROWbSOUTH EAST HEAVY BARB ARROW",
  "cWEST HEAVY BARB ARROWbLEFTWARDS VERY HEAVY BARB ARROWbUPWARDS VERY HEAVY BARB ARROW",
  "bRIGHTWARDS VERY HEAVY BARB ARROWbDOWNWARDS VERY HEAVY BARB ARROW",
  "bNORTH WEST VERY HEAVY BARB ARROWcEAST VERY HEAVY BARB ARROW",
  "bSOUTH EAST VERY HEAVY BARB ARROWcWEST VERY HEAVY BARB ARROW",
  ":1F890aLEFTWARDS TRIANGLE ARROWHEADaUPWARDS TRIANGLE ARROWHEADaRIGHTWARDS TRIANGLE ARROWHEAD",
  "aDOWNWARDS TRIANGLE ARROWHEADaLEFTWARDS WHITE ARROW WITHIN TRIANGLE ARROWHEAD",
  "aUPWARDS WHITE ARROW WITHIN TRIANGLE ARROWHEAD",
  "aRIGHTWARDS WHITE ARROW WITHIN TRIANGLE ARROWHEAD",
  "aDOWNWARDS WHITE ARROW WITHIN TRIANGLE ARROWHEADaLEFTWARDS ARROW WITH NOTCHED TAIL",
  "aUPWARDS ARROW WITH NOTCHED TAILaRIGHTWARDS ARROW WITH NOTCHED TAIL",
  "aDOWNWARDS ARROW WITH NOTCHED TAILaHEAVY ARROW SHAFT WIDTH ONEeTWO THIRDSeONE HALFfTHIRD",
  "aLEFTWARDS BOTTOM-SHADED WHITE ARROWaRIGHTWARDS BOTTOM SHADED WHITE ARROW",
  "aLEFTWARDS TOP SHADED WHITE ARROWaRIGHTWARDS TOP SHADED WHITE ARROW",
  "aLEFTWARDS LEFT-SHADED WHITE ARROWaRIGHTWARDS RIGHT-SHADED WHITE ARROW",
  "aLEFTWARDS RIGHT-SHADED WHITE ARROWaRIGHTWARDS LEFT-SHADED WHITE ARROW",
  "aLEFTWARDS BACK-TILTED SHADOWED WHITE ARROWaRIGHTWARDS BACK-TILTED SHADOWED WHITE ARROW",
  "aLEFTWARDS FRONT-TILTED SHADOWED WHITE ARROWaRIGHTWARDS FRONT-TILTED SHADOWED WHITE ARROW",
  "aWHITE ARROW SHAFT WIDTH ONEeTWO THIRDS:1F8B0aARROW POINTING UPWARDS THEN NORTH WEST",
  "cRIGHTWARDS THEN CURVING SOUTH WEST:1F900aCIRCLED CROSS FORMEE WITH FOUR DOTSeTWO DOTS",
  "cFORMEEaLEFT HALF CIRCLE WITH FOUR DOTSeTHREE DOTSeTWO DOTSeDOTcCIRCLEaDOWNWARD FACING HOOK",
  "cNOTCHED HOOKcHOOK WITH DOTcNOTCHED HOOK WITH DOTaPINCHED FINGERSaWHITE HEARTaBROWN HEART",
  "aPINCHING HANDaZIPPER-MOUTH FACEaMONEY-MOUTH FACEaFACE WITH THERMOMETERaNERD FACE",
  "aTHINKING FACEaFACE WITH HEAD-BANDAGEaROBOT FACEaHUGGING FACEaSIGN OF THE HORNSaCALL ME HAND",
  "aRAISED BACK OF HANDaLEFT-FACING FISTaRIGHT-FACING FISTaHANDSHAKE",
  "aHAND WITH INDEX AND MIDDLE FINGERS CROSSEDaI LOVE YOU HAND SIGNaFACE WITH COWBOY HAT",
  "aCLOWN FACEaNAUSEATED FACEaROLLING ON THE FLOOR LAUGHINGaDROOLING FACEaLYING FACEaFACE PALM",
  "aSNEEZING FACEaFACE WITH ONE EYEBROW RAISEDaGRINNING FACE WITH STAR EYES",
  "dONE LARGE AND ONE SMALL EYEaFACE WITH FINGER COVERING CLOSED LIPS",
  "aSERIOUS FACE WITH SYMBOLS COVERING MOUTH",
  "aSMILING FACE WITH SMILING EYES AND HAND COVERING MOUTHaFACE WITH OPEN MOUTH VOMITING",
  "aSHOCKED FACE WITH EXPLODING HEADaPREGNANT WOMANaBREAST-FEEDINGaPALMS UP TOGETHERaSELFIE",
  "aPRINCEaMAN IN TUXEDOaMOTHER CHRISTMASaSHRUGaPERSON DOING CARTWHEELaJUGGLINGaFENCER",
  "aMODERN PENTATHLONaWRESTLERSaWATER POLOaHANDBALLaDIVING MASKaWILTED FLOWER",
  "aDRUM WITH DRUMSTICKSaCLINKING GLASSESaTUMBLER GLASSaSPOONaGOAL NETaRIFLEaFIRST PLACE MEDAL",
  "aSECOND PLACE MEDALaTHIRD PLACE MEDALaBOXING GLOVEaMARTIAL ARTS UNIFORMaCURLING STONE",
  "aLACROSSE STICK AND BALLaSOFTBALLaFLYING DISCaCROISSANTaAVOCADOaCUCUMBERaBACONaPOTATOaCARROT",
  "aBAGUETTE BREADaGREEN SALADaSHALLOW PAN OF FOODaSTUFFED FLATBREADaEGGaGLASS OF MILKaPEANUTS",
  "aKIWIFRUITaPANCAKESaDUMPLINGaFORTUNE COOKIEaTAKEOUT BOXaCHOPSTICKSaBOWL WITH SPOON",
  "aCUP WITH STRAWaCOCONUTaBROCCOLIaPIEaPRETZELaCUT OF MEATaSANDWICHaCANNED FOODaLEAFY GREEN",
  "aMANGOaMOON CAKEaBAGELaSMILING FACE WITH SMILING EYES AND THREE HEARTSaYAWNING FACE",
  "aSMILING FACE WITH TEARaFACE WITH PARTY HORN AND PARTY HATcUNEVEN EYES AND WAVY MOUTH",
  "aOVERHEATED FACEaFREEZING FACEaNINJAaDISGUISED FACEaFACE HOLDING BACK TEARS",
  "bWITH PLEADING EYESaSARIaLAB COATaGOGGLESaHIKING BOOTaFLAT SHOEaCRABaLION FACEaSCORPION",
  "aTURKEYaUNICORN FACEaEAGLEaDUCKaBATaSHARKaOWLaFOX FACEaBUTTERFLYaDEERaGORILLAaLIZARD",
  "aRHINOCEROSaSHRIMPaSQUIDaGIRAFFE FACEaZEBRA FACEaHEDGEHOGaSAUROPODaT-REXaCRICKETaKANGAROO",
  "aLLAMAaPEACOCKaHIPPOPOTAMUSaPARROTaRACCOONaLOBSTERaMOSQUITOaMICROBEaBADGERaSWANaMAMMOTHaDODO",
  "aSLOTHaOTTERaORANGUTANaSKUNKaFLAMINGOaOYSTERaBEAVERaBISONaSEALaGUIDE DOGaPROBING CANE",
  "aEMOJI COMPONENT RED HAIRcCURLY HAIRcBALDcWHITE HAIRaBONEaLEGaFOOTaTOOTHaSUPERHERO",
  "aSUPERVILLAINaSAFETY VESTaEAR WITH HEARING AIDaMOTORIZED WHEELCHAIRaMANUAL WHEELCHAIR",
  "aMECHANICAL ARMbLEGaCHEESE WEDGEaCUPCAKEaSALT SHAKERaBEVERAGE BOXaGARLICaONIONaFALAFEL",
  "aWAFFLEaBUTTERaMATE DRINKaICE CUBEaBUBBLE TEAaTROLLaSTANDING PERSONaKNEELING PERSON",
  "aDEAF PERSONaFACE WITH MONOCLEaADULTaCHILDaOLDER ADULTaBEARDED PERSONaPERSON WITH HEADSCARF",
  "bIN STEAMY ROOMbCLIMBINGbIN LOTUS POSITIONaMAGEaFAIRYaVAMPIREaMERPERSONaELFaGENIEaZOMBIE",
  "aBRAINaORANGE HEARTaBILLED CAPaSCARFaGLOVESaCOATaSOCKSaRED GIFT ENVELOPEaFIRECRACKER",
  "aJIGSAW PUZZLE PIECEaTEST TUBEaPETRI DISHaDNA DOUBLE HELIXaCOMPASSaABACUSaFIRE EXTINGUISHER",
  "aTOOLBOXaBRICKaMAGNETaLUGGAGEaLOTION BOTTLEaSPOOL OF THREADaBALL OF YARNaSAFETY PIN",
  "aTEDDY BEARaBROOMaBASKETaROLL OF PAPERaBAR OF SOAPaSPONGEaRECEIPTaNAZAR AMULET",
  "aNEUTRAL CHESS KINGcQUEENcROOKcBISHOPcKNIGHTcPAWN",
  "aWHITE CHESS KNIGHT ROTATED FORTY-FIVE DEGREESaBLACK CHESS KNIGHT ROTATED FORTY-FIVE DEGREES",
  "aNEUTRAL CHESS KNIGHT ROTATED FORTY-FIVE DEGREESaWHITE CHESS KING ROTATED NINETY DEGREES",
  "cQUEEN ROTATED NINETY DEGREEScROOK ROTATED NINETY DEGREEScBISHOP ROTATED NINETY DEGREES",
  "cKNIGHT ROTATED NINETY DEGREEScPAWN ROTATED NINETY DEGREES",
  "aBLACK CHESS KING ROTATED NINETY DEGREEScQUEEN ROTATED NINETY DEGREES",
  "cROOK ROTATED NINETY DEGREEScBISHOP ROTATED NINETY DEGREEScKNIGHT ROTATED NINETY DEGREES",
  "cPAWN ROTATED NINETY DEGREESaNEUTRAL CHESS KING ROTATED NINETY DEGREES",
  "cQUEEN ROTATED NINETY DEGREEScROOK ROTATED NINETY DEGREEScBISHOP ROTATED NINETY DEGREES",
  "cKNIGHT ROTATED NINETY DEGREEScPAWN ROTATED NINETY DEGREES",
  "aWHITE CHESS KNIGHT ROTATED ONE HUNDRED THIRTY-FIVE DEGREES",
  "aBLACK CHESS KNIGHT ROTATED ONE HUNDRED THIRTY-FIVE DEGREES",
  "aNEUTRAL CHESS KNIGHT ROTATED ONE HUNDRED THIRTY-FIVE DEGREESaWHITE CHESS TURNED KINGdQUEEN",
  "dROOKdBISHOPdKNIGHTdPAWNaBLACK CHESS TURNED KINGdQUEENdROOKdBISHOPdKNIGHTdPAWN",
  "aNEUTRAL CHESS TURNED KINGdQUEENdROOKdBISHOPdKNIGHTdPAWN",
  "aWHITE CHESS KNIGHT ROTATED TWO HUNDRED TWENTY-FIVE DEGREES",
  "aBLACK CHESS KNIGHT ROTATED TWO HUNDRED TWENTY-FIVE DEGREES",
  "aNEUTRAL CHESS KNIGHT ROTATED TWO HUNDRED TWENTY-FIVE DEGREES",
  "aWHITE CHESS KING ROTATED TWO HUNDRED SEVENTY DEGREES",
  "cQUEEN ROTATED TWO HUNDRED SEVENTY DEGREEScROOK ROTATED TWO HUNDRED SEVENTY DEGREES",
  "cBISHOP ROTATED TWO HUNDRED SEVENTY DEGREEScKNIGHT ROTATED TWO HUNDRED SEVENTY DEGREES",
  "cPAWN ROTATED TWO HUNDRED SEVENTY DEGREES",
  "aBLACK CHESS KING ROTATED TWO HUNDRED SEVENTY DEGREES",
  "cQUEEN ROTATED TWO HUNDRED SEVENTY DEGREEScROOK ROTATED TWO HUNDRED SEVENTY DEGREES",
  "cBISHOP ROTATED TWO HUNDRED SEVENTY DEGREEScKNIGHT ROTATED TWO HUNDRED SEVENTY DEGREES",
  "cPAWN ROTATED TWO HUNDRED SEVENTY DEGREES",
  "aNEUTRAL CHESS KING ROTATED TWO HUNDRED SEVENTY DEGREES",
  "cQUEEN ROTATED TWO HUNDRED SEVENTY DEGREEScROOK ROTATED TWO HUNDRED SEVENTY DEGREES",
  "cBISHOP ROTATED TWO HUNDRED SEVENTY DEGREEScKNIGHT ROTATED TWO HUNDRED SEVENTY DEGREES",
  "cPAWN ROTATED TWO HUNDRED SEVENTY DEGREES",
  "aWHITE CHESS KNIGHT ROTATED THREE HUNDRED FIFTEEN DEGREES",
  "aBLACK CHESS KNIGHT ROTATED THREE HUNDRED FIFTEEN DEGREES",
  "aNEUTRAL CHESS KNIGHT ROTATED THREE HUNDRED FIFTEEN DEGREESaWHITE CHESS EQUIHOPPER",
  "aBLACK CHESS EQUIHOPPERaNEUTRAL CHESS EQUIHOPPER",
  "aWHITE CHESS EQUIHOPPER ROTATED NINETY DEGREESaBLACK CHESS EQUIHOPPER ROTATED NINETY DEGREES",
  "aNEUTRAL CHESS EQUIHOPPER ROTATED NINETY DEGREESaWHITE CHESS KNIGHT-QUEENcKNIGHT-ROOK",
  "cKNIGHT-BISHOPaBLACK CHESS KNIGHT-QUEENcKNIGHT-ROOKcKNIGHT-BISHOP:1FA60aXIANGQI RED GENERAL",
  "cMANDARINcELEPHANTcHORSEcCHARIOTcCANNONcSOLDIERbBLACK GENERALcMANDARINcELEPHANTcHORSE",
  "cCHARIOTcCANNONcSOLDIER:1FA70aBALLET SHOESaONE-PIECE SWIMSUITaBRIEFSaSHORTSaTHONG SANDAL",
  ":1FA78aDROP OF BLOODaADHESIVE BANDAGEaSTETHOSCOPEaX-RAYaCRUTCH:1FA80aYO-YOaKITEaPARACHUTE",
  "aBOOMERANGaMAGIC WANDaPINATAaNESTING DOLLS:1FA90aRINGED PLANETaCHAIRaRAZORaAXEaDIYA LAMP",
  "aBANJOaMILITARY HELMETaACCORDIONaLONG DRUMaCOINaCARPENTRY SAWaSCREWDRIVERaLADDERaHOOKaMIRROR",
  "aWINDOWaPLUNGERaSEWING NEEDLEaKNOTaBUCKETaMOUSE TRAPaTOOTHBRUSHaHEADSTONEaPLACARDaROCK",
  "aMIRROR BALLaIDENTIFICATION CARDaLOW BATTERYaHAMSA:1FAB0aFLYaWORMaBEETLEaCOCKROACH",
  "aPOTTED PLANTaWOODaFEATHERaLOTUSaCORALaEMPTY NESTaNEST WITH EGGS:1FAC0aANATOMICAL HEART",
  "aLUNGSaPEOPLE HUGGINGaPREGNANT MANbPERSONaPERSON WITH CROWN:1FAD0aBLUEBERRIESaBELL PEPPER",
  "aOLIVEaFLATBREADaTAMALEaFONDUEaTEAPOTaPOURING LIQUIDaBEANSaJAR:1FAE0aMELTING FACE",
  "aSALUTING FACEaFACE WITH OPEN EYES AND HAND OVER MOUTHcPEEKING EYEcDIAGONAL MOUTH",
  "aDOTTED LINE FACEaBITING LIPaBUBBLES:1FAF0aHAND WITH INDEX FINGER AND THUMB CROSSED",
  "aRIGHTWARDS HANDaLEFTWARDS HANDaPALM DOWN HANDbUP HANDaINDEX POINTING AT THE VIEWER",
  "aHEART HANDS:1FB00aBLOCK SEXTANT-1bSEXTANT-2bSEXTANT-12bSEXTANT-3bSEXTANT-13bSEXTANT-23",
  "bSEXTANT-123bSEXTANT-4bSEXTANT-14bSEXTANT-24bSEXTANT-124bSEXTANT-34bSEXTANT-134bSEXTANT-234",
  "bSEXTANT-1234bSEXTANT-5bSEXTANT-15bSEXTANT-25bSEXTANT-125bSEXTANT-35bSEXTANT-235",
  "bSEXTANT-1235bSEXTANT-45bSEXTANT-145bSEXTANT-245bSEXTANT-1245bSEXTANT-345bSEXTANT-1345",
  "bSEXTANT-2345bSEXTANT-12345bSEXTANT-6bSEXTANT-16bSEXTANT-26bSEXTANT-126bSEXTANT-36",
  "bSEXTANT-136bSEXTANT-236bSEXTANT-1236bSEXTANT-46bSEXTANT-146bSEXTANT-1246bSEXTANT-346",
  "bSEXTANT-1346bSEXTANT-2346bSEXTANT-12346bSEXTANT-56bSEXTANT-156bSEXTANT-256bSEXTANT-1256",
  "bSEXTANT-356bSEXTANT-1356bSEXTANT-2356bSEXTANT-12356bSEXTANT-456bSEXTANT-1456bSEXTANT-2456",
  "bSEXTANT-12456bSEXTANT-3456bSEXTANT-13456bSEXTANT-23456",
  "aLOWER LEFT BLOCK DIAGONAL LOWER MIDDLE LEFT TO LOWER CENTREjRIGHT",
  "eUPPER MIDDLE LEFT TO LOWER CENTREjRIGHTfLEFT TO LOWER CENTRE",
  "bRIGHT BLOCK DIAGONAL UPPER MIDDLE LEFT TO UPPER CENTREjRIGHT",
  "eLOWER MIDDLE LEFT TO UPPER CENTREjRIGHTfLEFT TO UPPER CENTRE",
  "fMIDDLE LEFT TO UPPER MIDDLE RIGHTfCENTRE TO LOWER MIDDLE RIGHTfLEFT TO LOWER MIDDLE RIGHT",
  "fCENTRE TO UPPER MIDDLE RIGHTfLEFT TO UPPER MIDDLE RIGHTfCENTRE TO UPPER RIGHT",
  "bLEFT BLOCK DIAGONAL UPPER CENTRE TO UPPER MIDDLE RIGHTfLEFT TO UPPER MIDDLE RIGHT",
  "fCENTRE TO LOWER MIDDLE RIGHTfLEFT TO LOWER MIDDLE RIGHTfCENTRE TO LOWER RIGHT",
  "fMIDDLE LEFT TO LOWER MIDDLE RIGHT",
  "aUPPER RIGHT BLOCK DIAGONAL LOWER MIDDLE LEFT TO LOWER CENTREjRIGHT",
  "eUPPER MIDDLE LEFT TO LOWER CENTREjRIGHTfLEFT TO LOWER CENTRE",
  "bLEFT BLOCK DIAGONAL UPPER MIDDLE LEFT TO UPPER CENTREjRIGHT",
  "eLOWER MIDDLE LEFT TO UPPER CENTREjRIGHTfLEFT TO UPPER CENTRE",
  "fMIDDLE LEFT TO UPPER MIDDLE RIGHTfCENTRE TO LOWER MIDDLE RIGHTfLEFT TO LOWER MIDDLE RIGHT",
  "fCENTRE TO UPPER MIDDLE RIGHTfLEFT TO UPPER MIDDLE RIGHTfCENTRE TO UPPER RIGHT",
  "bRIGHT BLOCK DIAGONAL UPPER CENTRE TO UPPER MIDDLE RIGHTfLEFT TO UPPER MIDDLE RIGHT",
  "fCENTRE TO LOWER MIDDLE RIGHTfLEFT TO LOWER MIDDLE RIGHTfCENTRE TO LOWER RIGHT",
  "fMIDDLE LEFT TO LOWER MIDDLE RIGHTbAND RIGHT AND LOWER TRIANGULAR THREE QUARTERS BLOCK",
  "aLEFT AND LOWER AND RIGHT TRIANGULAR THREE QUARTERS BLOCK",
  "aUPPER AND LEFT AND LOWER TRIANGULAR THREE QUARTERS BLOCK",
  "aLEFT AND UPPER AND RIGHT TRIANGULAR THREE QUARTERS BLOCKbTRIANGULAR ONE QUARTER BLOCK",
  "aUPPER TRIANGULAR ONE QUARTER BLOCKaRIGHT TRIANGULAR ONE QUARTER BLOCK",
  "aLOWER TRIANGULAR ONE QUARTER BLOCKaVERTICAL ONE EIGHTH BLOCK-2dBLOCK-3dBLOCK-4dBLOCK-5",
  "dBLOCK-6dBLOCK-7aHORIZONTAL ONE EIGHTH BLOCK-2dBLOCK-3dBLOCK-4dBLOCK-5dBLOCK-6dBLOCK-7",
  "aLEFT AND LOWER ONE EIGHTH BLOCKcUPPER ONE EIGHTH BLOCKaRIGHT AND UPPER ONE EIGHTH BLOCK",
  "cLOWER ONE EIGHTH BLOCKaUPPER AND LOWER ONE EIGHTH BLOCKaHORIZONTAL ONE EIGHTH BLOCK-1358",
  "aUPPER ONE QUARTER BLOCKbTHREE EIGHTHS BLOCKbFIVE EIGHTHS BLOCKbTHREE QUARTERS BLOCK",
  "bSEVEN EIGHTHS BLOCKaRIGHT ONE QUARTER BLOCKbTHREE EIGHTHS BLOCKbFIVE EIGHTHS BLOCK",
  "bTHREE QUARTERS BLOCKbSEVEN EIGHTHS BLOCKaLEFT HALF MEDIUM SHADEaRIGHT HALF MEDIUM SHADE",
  "aUPPER HALF MEDIUM SHADEaLOWER HALF MEDIUM SHADEaINVERSE MEDIUM SHADE",
  "aUPPER HALF BLOCK AND LOWER HALF INVERSE MEDIUM SHADE",
  "cINVERSE MEDIUM SHADE AND LOWER HALF BLOCK",
  ":1FB94aLEFT HALF INVERSE MEDIUM SHADE AND RIGHT HALF BLOCKaCHECKER BOARD FILL",
  "aINVERSE CHECKER BOARD FILLaHEAVY HORIZONTAL FILLaUPPER LEFT TO LOWER RIGHT FILL",
  "bRIGHT TO LOWER LEFT FILLbAND LOWER TRIANGULAR HALF BLOCK",
  "aLEFT AND RIGHT TRIANGULAR HALF BLOCKaUPPER LEFT TRIANGULAR MEDIUM SHADE",
  "bRIGHT TRIANGULAR MEDIUM SHADEaLOWER RIGHT TRIANGULAR MEDIUM SHADE",
  "bLEFT TRIANGULAR MEDIUM SHADEaBOX DRAWINGS LIGHT DIAGONAL UPPER CENTRE TO MIDDLE LEFTiRIGHT",
  "eMIDDLE LEFT TO LOWER CENTREfRIGHT TO LOWER CENTRE",
  "eUPPER CENTRE TO MIDDLE LEFT TO LOWER CENTREiRIGHT TO LOWER CENTRE",
  "eMIDDLE LEFT TO LOWER CENTRE TO MIDDLE RIGHThUPPER CENTRE TO MIDDLE RIGHT",
  "eUPPER CENTRE TO MIDDLE LEFT AND MIDDLE RIGHT TO LOWER CENTRE",
  "iRIGHT AND MIDDLE LEFT TO LOWER CENTREjTO LOWER CENTRE TO MIDDLE LEFT",
  "iLEFT TO LOWER CENTRE TO MIDDLE RIGHT",
  "eMIDDLE LEFT TO UPPER CENTRE TO MIDDLE RIGHT TO LOWER CENTRE",
  "fRIGHT TO UPPER CENTRE TO MIDDLE LEFT TO LOWER CENTREeDIAMOND",
  "dHORIZONTAL WITH VERTICAL STROKEaARROWHEAD-SHAPED POINTERaINVERSE CHECK MARK",
  "aLEFT HALF RUNNING MANaRIGHT HALF RUNNING MANaINVERSE DOWNWARDS ARROW WITH TIP LEFTWARDS",
  "aLEFTWARDS ARROW AND UPPER AND LOWER ONE EIGHTH BLOCK",
  "aRIGHTWARDS ARROW AND UPPER AND LOWER ONE EIGHTH BLOCK",
  "aDOWNWARDS ARROW AND RIGHT ONE EIGHTH BLOCKaUPWARDS ARROW AND RIGHT ONE EIGHTH BLOCK",
  "aLEFT HALF FOLDERaRIGHT HALF FOLDERaVOIDED GREEK CROSSaRIGHT OPEN SQUARED DOT",
  "aNEGATIVE DIAGONAL CROSScMIDDLE RIGHT TO LOWER CENTREcDIAMOND",
  "aWHITE HEAVY SALTIRE WITH ROUNDED CORNERSaLEFT THIRD WHITE RIGHT POINTING INDEX",
  "aMIDDLE THIRD WHITE RIGHT POINTING INDEXaRIGHT THIRD WHITE RIGHT POINTING INDEX",
  "aNEGATIVE SQUARED QUESTION MARKaSTICK FIGUREcWITH ARMS RAISEDcLEANING LEFTdRIGHTcWITH DRESS",
  "aWHITE UP-POINTING CHEVRON:1FBF0aSEGMENTED DIGIT ZEROcONEcTWOcTHREEcFOURcFIVEcSIXcSEVEN",
  "cEIGHTcNINE:E0001aLANGUAGE TAG:E0020aTAG SPACEbEXCLAMATION MARKbQUOTATION MARKbNUMBER SIGN",
  "bDOLLAR SIGNbPERCENT SIGNbAMPERSANDbAPOSTROPHEbLEFT PARENTHESISbRIGHT PARENTHESISbASTERISK",
  "bPLUS SIGNbCOMMAbHYPHEN-MINUSbFULL STOPbSOLIDUSbDIGIT ZEROcONEcTWOcTHREEcFOURcFIVEcSIXcSEVEN",
  "cEIGHTcNINEbCOLONbSEMICOLONbLESS-THAN SIGNbEQUALS SIGNbGREATER-THAN SIGNbQUESTION MARK",
  "bCOMMERCIAL ATbLATIN CAPITAL LETTER AeBeCeDeEeFeGeHeIeJeKeLeMeNeOePeQeReSeTeUeVeWeXeYeZ",
  "bLEFT SQUARE BRACKETbREVERSE SOLIDUSbRIGHT SQUARE BRACKETbCIRCUMFLEX ACCENTbLOW LINE",
  "bGRAVE ACCENTbLATIN SMALL LETTER AeBeCeDeEeFeGeHeIeJeKeLeMeNeOePeQeReSeTeUeVeWeXeYeZ",
  "bLEFT CURLY BRACKETbVERTICAL LINEbRIGHT CURLY BRACKETbTILDEaCANCEL TAG"]

/-- Names that characters have beside those of their own. -/
def otherNames : List String := [
  ":0aNUL:0aNULLaSOH:1aSTART OF HEADINGcTEXT:2aSTXaEND OF TEXT:3aETXaEND OF TRANSMISSION:4aEOT",
  "aENQ:5aENQUIRYaACK:6aACKNOWLEDGEaALERT:7aBELaBACKSPACE:8aBSaCHARACTER TABULATION",
  ":9aHORIZONTAL TABULATION:9aHT:9aTABaEND OF LINE:AaEOL:AaLF:AaLINE FEED:AaNEW LINE:AaNL",
  "aLINE TABULATION:BaVERTICAL TABULATION:BaVTaFF:CaFORM FEEDaCARRIAGE RETURN:DaCR",
  "aLOCKING-SHIFT ONE:EaSHIFT OUT:EaSOaLOCKING-SHIFT ZERO:FaSHIFT IN:FaSIaDATA LINK ESCAPE",
  ":10aDLEaDC1:11aDEVICE CONTROL ONEaDC2:12aDEVICE CONTROL TWOaDC3:13aDEVICE CONTROL THREEaDC4",
  ":14aDEVICE CONTROL FOURaNAK:15aNEGATIVE ACKNOWLEDGEaSYN:16aSYNCHRONOUS IDLE",
  "aEND OF TRANSMISSION BLOCK:17aETBaCAN:18aCANCELaEND OF MEDIUM:19aEOMaSUB:1AaSUBSTITUTEaESC",
  ":1BaESCAPEaFILE SEPARATOR:1CaFS:1CaINFORMATION SEPARATOR FOURaGROUP SEPARATOR:1DaGS",
  ":1DaINFORMATION SEPARATOR THREEcTWO:1EaRECORD SEPARATOR:1EaRSaINFORMATION SEPARATOR ONE",
  ":1FaUNIT SEPARATOR:1FaUSaSP:7FaDEL:7FaDELETEaPAD:80aPADDING CHARACTERaHIGH OCTET PRESET",
  ":81aHOPaBPH:82aBREAK PERMITTED HEREaNBH:83aNO BREAK HEREaIND:84aINDEXaNEL:85aNEXT LINEaSSA",
  ":86aSTART OF SELECTED AREAaEND OF SELECTED AREA:87aESAaCHARACTER TABULATION SET",
  ":88aHORIZONTAL TABULATION SET:88aHTSaCHARACTER TABULATION WITH JUSTIFICATION",
  ":89aHORIZONTAL TABULATION WITH JUSTIFICATION:89aHTJaLINE TABULATION SET",
  ":8AaVERTICAL TABULATION SET:8AaVTSaPARTIAL LINE DOWN:8BcFORWARD:8BaPLDaPARTIAL LINE BACKWARD",
  ":8CcUP:8CaPLUaREVERSE INDEX:8DbLINE FEED:8DaRIaSINGLE SHIFT TWO:8EaSINGLE-SHIFT-2:8EaSS2",
  "aSINGLE SHIFT THREE:8FaSINGLE-SHIFT-3:8FaSS3aDCS:90aDEVICE CONTROL STRINGaPRIVATE USE ONE",
  ":91bUSE-1:91aPU1aPRIVATE USE TWO:92bUSE-2:92aPU2aSET TRANSMIT STATE:93aSTSaCANCEL CHARACTER",
  ":94aCCHaMESSAGE WAITING:95aMWaSPA:96aSTART OF GUARDED AREA:96cPROTECTED AREA",
  "aEND OF GUARDED AREA:97cPROTECTED AREA:97aEPAaSOS:98aSTART OF STRINGaSGC",
  ":99aSINGLE GRAPHIC CHARACTER INTRODUCERaSCI:9AaSINGLE CHARACTER INTRODUCER",
  "aCONTROL SEQUENCE INTRODUCER:9BaCSIaST:9CaSTRING TERMINATORaOPERATING SYSTEM COMMAND:9DaOSC",
  "aPM:9EaPRIVACY MESSAGEaAPC:9FaAPPLICATION PROGRAM COMMANDaNBSP:ADaSHY",
  ":1A2aLATIN CAPITAL LETTER GHAbSMALL LETTER GHA:34FaCGJ:61CaALM",
  ":709aSYRIAC SUBLINEAR COLON SKEWED LEFT:CDEaKANNADA LETTER LLLA:E9DaLAO LETTER FO FON",
  ":E9FdFAY:EA3cRO:EA5cLO:FD0aTIBETAN MARK BKA- SHOG GI MGO RGYAN",
  ":11ECaHANGUL JONGSEONG YESIEUNG-KIYEOKcYESIEUNG-SSANGKIYEOKcSSANGYESIEUNGcYESIEUNG-KHIEUKH",
  ":180BaFVS1aFVS2aFVS3aMVSaFVS4:200BaZWSPaZWNJaZWJaLRMaRLM:202AaLREaRLEaPDFaLROaRLOaNNBSP",
  ":205FaMMSPaWJ:2066aLRIaRLIaFSIaPDI:2118aWEIERSTRASS ELLIPTIC FUNCTION:2448aMICR ON US SYMBOL",
  "bDASH SYMBOL:2B7AaLEFTWARDS TRIANGLE-HEADED ARROW WITH DOUBLE VERTICAL STROKE",
  ":2B7CaRIGHTWARDS TRIANGLE-HEADED ARROW WITH DOUBLE VERTICAL STROKE",
  ":A015aYI SYLLABLE ITERATION MARK:AA6EaMYANMAR LETTER KHAMTI LLA",
  ":FE18aPRESENTATION FORM FOR VERTICAL RIGHT WHITE LENTICULAR BRACKET:FEFFaBOM",
  ":FEFFaBYTE ORDER MARK:FEFFaZWNBSP:122D4aCUNEIFORM SIGN NU11 TENUdOVER NU11 BUR OVER BUR",
  ":16E56aMEDEFAIDRIN CAPITAL LETTER HdNG:16E76bSMALL LETTER HdNG:1B001aHENTAIGANA LETTER E-1",
  ":1D0C5aBYZANTINE MUSICAL SYMBOL FTHORA SKLIRON CHROMA VASIS"]

/-- All names, in blocks that can be read by themselves. -/
def nameBlocks : List (List String) := [
  namesFrom0020, namesFrom151E, namesFrom2824, namesFromA9BE,
  namesFrom10FBC, namesFrom145D6, namesFrom1D82B, otherNames]

end WireTypes.Text
