/-!
# Names of characters in rows

The names stand in alphabetical order. Before each name small letters tell how many characters of the
name before it are dropped, as digits of the base 26 from `a` for zero, and only the characters after
the others are written. Runs of characters that come often are written as one sign.
-/

namespace SourceFacts.Text

/-- The signs with their runs. A run may hold signs that are listed after its own. -/
def nameSigns : List (Char × String) :=
  [('Ω', "EaEcIbO"), ('Ψ', "*G "), ('Φ', "DOUB."), ('Σ', "5a6a7a8c8c7a8c8c6a7a8c8c7a8c8"),
   ('Ξ', "HOOK"), ('Λ', "MIDD. "), ('Δ', "ENT"), ('ω', "TIMES "), ('ψ', "AbEbIbObU"),
   ('χ', "V,TIC+ "), ('φ', "HUNDRED"), ('υ', "HORIZ;T+"), ('τ', "*ITI+$"),
   ('σ', "%+EF MAKSURA F*+$"), ('ρ', "GEGRAMMENI"), ('π', "ED "), ('ξ', "THOUS<D"), ('ν', "PbTbXc"),
   ('μ', ".TT, "),
   ('λ', "GaAMMAfHbIaOTAeJbKaAPPAfLaAMDAfMaUcNaUcOaMEGAdICR;hPaHIcIbSIdQbRaHOdSaIGMAfTaAUc"),
   ('κ', "TI; M&K"), ('ι', "_ROTATED N*ETY DEGREESoTWO HUNDRED SEVENTY DEGRE"), ('θ', " BRACKET"),
   ('η', "STROKE"), ('ζ', "1b2b3b4b5"), ('ε', " SYMBOL"), ('δ', "BELOW"),
   ('γ', " αbGbHbIbJbKbLbMbNbObPbQbRbSbTbUbVbWbXbY"), ('β', "F*+$k*ITI+$l@nMEDI+$"),
   ('α', "AbBbCbDbEbF"), ('~', " SIGN"), ('|', "AbHA"), ('_', "a "), ('^', "IGHT"),
   ('@', "SOLATED$"), ('>', " &ROW"), ('<', "AN"), (';', "ON"), (':', " ABOVE"), ('.', "LE"),
   (',', "ER"), ('+', "AL"), ('*', "IN"), ('&', "AR"), ('%', "WITH "), ('$', " FORM"),
   ('#', "IGIT EIGHTfFIVEdOUReNINEeONEdSEVENeIXdTHREEeWOdZ"), ('!', "0b1b2b3b4b5b6b7b8b9")]

/-- The names and further names of characters (Unicode 14.0), without those made by a rule. -/
def characterNameRows : List String :=
  ["aABACUSfC CURRΔiCORDI;fUNT OFiKaNOW.DGEjTIVATE &ABIC$ SHAP*GtSYMMETRIC SWAPP*GzUTE ACCΔfNG.",
   "kDDRESSπTO THE SUBJECTwHESIVE B<DAGEoI SHAKTIiLAM +IF .NGTHEN,pCAPIT+ μ+IFeBAbHEdCHIdDA+IeHAdE",
   "bFAcGAbBEdHAcIbJIIMeKAFcHAcPOdLAAMeMIIMeNHAcUNcYAdObPEcQAAFeRAcSHAc*NYIIYHEkTUcUbVAcWAWdYAbHE",
   "dZ+r;S;<T MODIFI,sD#,OkGEM*ATE C;S;<T MODIFI,uI; M&KpHAMZAf*ITI+ EXCLAMAκqQUESκvNAS+IZAκqUKTA",
   "fSM+L μ+IFeBAbHEdCHIdDA+IeHAdEbFAcGAbBEdHAcIbJIIMeKAFcHAcPOdLAAMeMIIMeNHAcUNcYAdObPEcQAAFeRA",
   "cSHAc*NYIIYHEkTUcUbVAcWAWdYAbHEdZ+qVOWEL .NGTHEN,uMETOSeISSI; TICKETSpULTeEGE< CHECK M&K",
   "kDRY MEASURE FIRST SUBUNITzLIQUID MEASURE FIRST SUBUNITbcMEASURE SEC;D SUBUNIToTHIRD SUBUNIT",
   "vNUMB, E^_φhξjY_ξpFIFTY_ξmVE_φhξmORTY_ξmUR_φhξnN*E_φhξjTY_ξp;E_φhξmSEVEN_φhξjTY_ξpIX_φhξjTY_ξ",
   "oTEN_ξlHIRTY_ξnREE_φhξnWΔY_ξnO_φhξtWE^ BASE UNITjFIRST SUBUNITmOURTH SUBUNIToSEC;D SUBUNIT",
   "oTHIRD SUBUNITtORD SEP&ATOR DOTdL*EyRI+ TRAMWAYnFGH<I~lHOM C;S;<T~ MEDI+ LAbIGATΨRAlRAyD#,OkμA",
   "aLT,NATE BAcGAcTAmB|dC|dDAbD|dHAdG|dHAcJ|dK|dLAbLAdMAcNAbGAcNAcYAdP|dRAcSAcT|cT|lNUMB, TENcWΔY",
   "nSIGN KILL,gRULAIfSECTI;gM+L SECTI;rYMBOL VIjVOWEL~ AaAbIbMbWcEbIaIcObUaUrIRPL<E_&RIV*G",
   "iDEP&TURErKTIESELSKABlL&M CLOCKjCHEMIC+ε FOR AIRc.MBICfK+Ia-2gUMdM+GAMgNTIM;Y ORElQUA REGIAa-2",
   "hVITAEa-2iFORTISjRSENICgSHESeURIPIGMΔlBATH OF M&YeVAPOURSoISMUTH OREkLACK SULFURlORAXa-2b3",
   "gRICKfCADUCEUSgLXcPUT MORTUUMm*NAB&hOPP, <TIM;IATElOREjROCUS OF COPP,a-2iIR;mUCIB.a-2b3b4b5",
   "kDAY-N^iISSOLVEa-2hTILLhE&THfFIREeGOLDdUMdH+F DRAMeOUNCEjORSE DUNGiUReIR; OREa-2g-COPP, ORE",
   "p.AD OREhODEST;EjM&CASITEi,CURY SUBLIMATEa-2b3s;THfN^dTREfOILdPHILOSOPH,S SULFURsOT ASHEShWD,",
   "aπBRICKnRECIPITATEkURIFYeTREFACTI;mQUICK LIMEhNTESSENCEmRE+G&a-2hGULUS_OF <TIM;Ya-2kIR;i-2b3b4",
   "hTORTfOCK S+Ta-2lS+-AMM;IACjT_OF <TIM;YiCOPP, <TIM;IATEzCEPT, OF JOVEoILV,fOAPdPIRITfT&RπTRIDΔ",
   "nRATUM SUP, STRATUMa-2wUBLIMATE OF <TIM;YiCOPP,gS+T OF <TIM;YiCOPP,tI;jLFURgT&T&a-2h* ORE",
   "eCTUREhRIDΔgUTTYfUR*EfV,DIGRISi*EG&_OF <TIM;Ym-2b3hTRIOLa-2jWAT,dXxEFεiMBICeRTdIEN M;ST,",
   "lL &OUND-PROFI.oEQU+ TOkMaOST EQU+ OR EQU+ TOlTO_%CIRCUMF.X ACCΔ",
   "bkT,NATE ;E-WAY .FT WAY TRAFFICbaIVE KEYεvM+GAMATI; OR COPRODUCTxBUL<CEh,IC< FOOTB+LpP,S<D",
   "gHORAgNATOLI< HI,OGLYPH A00ζb6b7b8b9c10aAcζb6b7b8b9c20bζb6aAc7b8b9c3!aAd40b1aAc2b3b4b5aAc6aAbB",
   "c7b8b9c5!c60bζb6aAbBbCc7b8b9c7!c8!c90bζb6b7aAc8aAc9d100aAc1aAc2aAc3b4aAbBbCc5aAbBc6b7aAbBbCc8",
   "b9c10aAbBcζaAc6b7b8b9c20bζaAc6b7b8b9c30bζaAc6b7b8b9c4!c5!c6!c7!c8!c9!d200b1b2aAbBc3b4b5b6b7aA",
   "c8b9aAd10bζaAc6aAc7b8b9c20bζb6b7aAc8b9c3!c4!c5!c60bζb6b7aAc8b9c7!c8!aAd90b1b2b3b4aAc5b6b7b8b9",
   "aAe30!aAd1!c2!aAd30b1b2AbBbCc3b4b5b6aAbBbCc7b8b9c4!c5!aAd60b1b2b3b4aAc5b6b7b8aAc9c70b1aAc2b3b4",
   "b5b6b7b8b9c80b1aAc2b3 RA OR RIjAc4b5b6aAc7b8b9c90b1b2b3 E^h4b5b6b7b8b9d40!",
   "c10 BEG* LOGOGRAM M&KuA END LOGOGRAM M&Kuζb6b7b8b9c2!c3!c4!c50aAcζb6b7aAc8b9c6!c7!c8!c90bζb6b7",
   "d50ζb6b7b8b9c1!c2!c30uMIC+ HE&ToCHOReD %DOTkG,εj._%S *SIDEiUND,B&qRY FACEhSTROM~kUISHπFACEmKH",
   "cTaENNA %B&SoICLOCKWISE CLOSπCIRC.>s;TOUR *TEGR+qDOWNW&DS <D UPW&DS OPEN CIRC.>SboGAPPπCIRC.>",
   "t*TEGRATI;lOPEN CIRC.>rTOP SEMICIRC.>tRI<G.-HEADπBOTTOM U-SHAPED>v.FT U-SHAPED>tOPEN CIRC.>",
   "rR^ U-SHAPED>uTOP U-SHAPED>bvPCbL FUNCTI;+ε +PHA_UND,B&oBACKSLASH B&nCIRC. BACKSLASHjDIA,ESIS",
   "jJOTdST&cI.fUND,B&oOMMA B&jDEL DIA,ESISjSTI.fTILDEgTA STI.fUND,B&nIAM;D UND,B&pOWN C&ET TILDE",
   "lSHOE STI.kTACK JOTdUND,B&oW&DS V<EoEPSIL; UND,B&qGREAT,-TH< DIA,ESISwI-BEAMfOTA_UND,B&",
   "nJOT DIA,ESISjUND,B&m.FT SHOE STI.lW&DS V<EoOMEGA_UND,B&oQUAD_BACKSLASHjCIRC.fOL;fDELaTAeIAM;D",
   "fVIDEfOWN C&ETgW&DS>pEQU+fGREAT,-TH<mJOTd.FTW&DS>nSS-TH<jNOT EQU+jQUESTI;iR^W&DS>qSLASH",
   "fUP C&ETgW&DS>qOTE QUADeUND,B&oRHOc^W&DS V<EpSEMICOL; UND,B&rLASH B&iQUISH QUADkT& DIA,ESIS",
   "mI. TILDElTILDE DIA,ESISpUP C&ET TILDElSHOE JOTiTACK DIA,ESISjJOTdOV,B&nW&DS V<EmZILDEzOLL;",
   "eSTROPHEiPLICATI; PROGRAM COMM<DyROACHES THE LIMITpXIMATELY BUT NOT ACTU+LY EQU+ TO",
   "zEQU+ OR EQU+ TOlTO_OR THE IMAGE OFblQU&IUShRABIC BASEL*E ROUND DOTsCOMMAeURLY DAMMAaT<iFATHA",
   "aT<iKASRAaT<oDAMMA_I@nMEDI+$l%DOTjT<_I@uTE SEP&ATORnECIM+ SEP&ATORqISPUTπEND OF AYAH",
   "tOUB. R^>HEAD:_%DOTbfD MADDAnEMPTY CΔRE HIGH STOPjLOW STOPuND OF AYAHeTEXT M&KqFATHA_I@nMEDI+$",
   "l%DOT:jR*GeTWO DOTSoT<_I@vIVE PO*TπST&qOOTNOTE M&K,oULL STOPjH+F MADDA OV, MADDAtMZA:fδ",
   "l*V,TπDAMMAoKASRA_I@nMEDI+$l%DOT δpT<_I@wL&GE CIRC. δmROUND DOT:fδf*SIDE CIRC. δbiEFT>HEAD:fδ",
   "sTT, AEbFRIC< FEHdNO;eQAF_%THREE DOTS:bg*_βl%THREE DOTS:fδfPO*TΨDOWNW&DS:biWO DOTS:fV,TIC+LY:",
   "bh.F_F*+$kI@nMAKSURA_F*+$kI@vWASLA_F*+$kI@sITH ATTACHπBOTTOM R^ KASRA_<D DOT:j.FT R*GbgFATHA",
   "fKASRAf.FT HAMZAfROUND DOToR^ HAMZAfROUND DOToOUND DOT:fδpTOP R^ FATHA_<D DOT:j.FT R*GbmDOT:",
   "jEXTENDπ&ABIC-*DIC DIGIT THREE:kWO:blHAMZA:_F*+$kI@tδ_F*+$kI@z.FT ΛηsMADDA:_F*+$kI@zR^ Λη",
   "_<D DOT:j.FT R*GbhWAVY HAMZA:fδbaBEEH_βoH_βl%DOT δ <D THREE DOTS:beHAMZA:l*V,TπSM+L V δ",
   "wSM+L MEEM:kV_δnTHREE DOTS υLY δsPO*TΨUPW&DS δ_<D TWO DOTS:bzWO DOTS δ <D DOT:biEH_βrDAD_β",
   "l%DOT δqH+_F*+$kI@rL_F*+$kI@n%DOT δ_<D SM+L TAHxFOUR DOTS:p*V,TπSM+L V δnVkR*G",
   "eTHREE DOTS: DOWNW&DSpδpWO DOTS V,TIC+LY δ <D SM+L TAHbvDAH+_F*+$kI@rL_F*+$kI@rOT.SS BEHdFEH",
   "dQAFkUL_F*+$kI@qYEH_βqE_βnF&SI YEH_βl%EXTENDπ&ABIC-*DIC DIGIT FOUR δkTHREE:kWO:bl*V,TπV",
   "kTHREE DOTS:pWO DOTS:bcEH_βl%DOT δ_<D THREE DOTS:baMOVπδpTHREE DOTS δfPO*TΨUPW&DS δbgWO DOTS δ",
   "xGAF_βl%*V,TπηpR*GeTHREE DOTS:pWO DOTS δwHA*_βl%DOT δjTHREE DOTS:baRAFdUEH_βqHAH_β",
   "l%EXTENDπ&ABIC-*DIC DIGIT FOUR δbmHAMZA:l*V,TπSM+L V δwSM+L &ABIC μTAH:eND TWO DOTSmδ",
   "bdTHREE DOTS:fPO*TΨUPW&DS δbgWO DOTS:fV,TIC+:beMZA_I@sEH_DOACHASHMEE_βxF*+$kGO+_βl%HAMZA:vτl@",
   "nMEDI+$l%*V,TπVkYEH:_F*+$kI@bfIGH HAMZA_+EFeWAWdYEHoJEEM_βl%THREE DOTS:fδpWO DOTS:wH_F*+$kI@",
   "rKAF_βl%DOT:fδjR*GeTHREE DOTS δpWO DOTS:vSHMIRI YEHlEHEH_βl%DOT:jSM+L VhTHREE DOTS:fδ",
   "fPO*TΨUPW&DS δbgWO DOTS:fV,TIC+LY δbjHAH_βpIRGHIZ OE_F*+$kI@qYU_F*+$kI@yLAM_βl%B&dDOT:hUB. B&",
   "kSM+L &ABIC μTAH:xVhTHREE DOTS:fδyOW +EFiM&KdEEM_βl%DOT:fδjTHREE DOTS:baNG_βmOEH_βqO;_F*+$",
   "kGHUNNA_F*+$kI@uτl@nMEDI+$l%DOT δj*V,TπSM+L VqR*GeSM+L TAHdVhTHREE DOTS:pWO DOTS δxYEH_βqOE",
   "_F*+$kI@qPEH_βl%SM+L MEEM:kVnEH_βrQAF_βl%DOT:fδ_<D NO DOTS:bbTHREE DOTS:zREH_F*+$kI@n%DOT δ",
   "_<D DOT:xFOUR DOTS:pHAMZA:l*V,TπVkLOOPeR*GeSM+L &ABIC μTAH <D TWO DOTSbeNO;:kV_δmTROKE",
   "gTWO DOTS:fV,TIC+LY:bhNO;_βqOH*GYA YEHlREH_F*+$kI@sSAD_βl%THREE DOTS:fδpWO DOTS δwEEN_β",
   "l%DOT δ <D DOT:xEXTENDπ&ABIC-*DIC DIGIT FOUR:bmFOUR DOTS:p*V,TπVkSM+L &ABIC μTAH <D TWO DOTS",
   "bkTHREE DOTS δ_<D THREE DOTS:bkWO DOTS V,TIC+LY:biHEEN_βl%DOT δtTRA^ WAWlUP,SCRIPT +EF",
   "pWASH KAFjTAH_βl%DOT δjTHREE DOTS:fδpWO DOTS:wCHEH_βl%DOT:jSM+L VnEH_βsEH_F*+$kτl@nM&BUTA_F*+$",
   "kGO+eI@uEDI+$l%R*GeSM+L TEH:jVhTHREE DOTS: DOWNW&DSbgEH_βqH+_F*+$kI@qEH_βo* YEHhTEH_βl%SM+L V",
   "nEH_βsU_F*+$kI@n%HAMZA:_I@bfIGHUR KAZAKH KIRGHIZ +EF MAKSURA τmMEDI+$buVE_F*+$kI@oH_βpWAW_F*+$",
   "kI@n%DOT:fWITH*kEXTENDπ&ABIC-*DIC DIGIT THREE:kWO:blHAMZA:_F*+$kI@zR*GeTWO DOTS:xYEH_B&REE",
   "_F*+$kI@n%EXTENDπ&ABIC-*DIC DIGIT THREE:kWO:blHAMZA:_F*+$kI@blβl%HAMZA:_βxSM+L VhTAIL",
   "dHREE DOTS δpWO DOTS δ <D DOT:jHAMZA:lSM+L NO;:brU_F*+$kI@qZAH_βn*_F*+$kI@n%*V,TπV:",
   "bgIGATURE A* σkI@baJEEM τl@n%MEEM F*+$kτbbMEEM τl@nσxMEEM F*+$kτrYEH F*+$yYEH F*+$kI@zKB& I@",
   "sLAYHAA AS-S+AAMmE I@pI AS-S+AAMbTU WAS-S+AAMwM AS-S+AAMkAA AS-S+AAM",
   "rEF MAKSURA %SUP,SCRIPT +EF F*+$kI@br%FATHAT< F*+$kI@beLAH I@sZZA WA J+LmBEH σkI@baHAH τl@",
   "n%YEH F*+$wEH τmMEDI+$pJEEM τl@sKHAH τl@n%YEH F*+$yMEEM βqNO; F*+$pREH F*+$oYEH F*+$kI@",
   "rZA* F*+$xISMILLAH &-RAHM< &-RAHEEMbdDAD σkI@baHAH τl@nσxYEH F*+$xJEEM τl@sKHAH τl@n%MEEM F*+$",
   "kτbbMEEM τl@sREH F*+$kI@rYEH F*+$kI@baFEH σkI@baHAH τl@rJEEM τl@sKHAH τl@n%MEEM F*+$kτbbMEEM τ",
   "l@n%YEH F*+$yYEH F*+$kI@baGHA* σkI@baJEEM τl@sMEEM τl@nσxMEEM F*+$pYEH F*+$yYEH F*+$kI@bcHAH σ",
   "kI@baJEEM τl@n%YEH F*+$yMEEM τl@nσxYEH F*+$yYEH F*+$kI@zEH %+EF MAKSURA I@baJEEM τl@sMEEM τl@",
   "n%JEEM τrMEEM τbbSUP,SCRIPT +EF τbdYEH I@baJ+LAJ++OUHOUoEEM σkI@baHAH τl@nσxYEH F*+$xMEEM τl@",
   "nσxHAH F*+$kτqYEH F*+$yYEH F*+$kI@bbKAF %+EF F*+$kI@nMAKSURA F*+$kI@baHAH τl@rJEEM τl@sKHAH τ",
   "l@sLAM βpMEEM βl%MEEM F*+$kτrYEH F*+$yYEH F*+$kI@zHAH σkI@baHAH I@rJEEM τl@sMEEM τl@sYEH F*+$",
   "kI@bbLAM %+EF F*+$kI@nMAKSURA F*+$kI@v%HAMZA: F*+$kI@tδ F*+$kI@zMADDA: F*+$kI@bjHAH τl@nσ",
   "xMEEM F*+$kτrYEH F*+$wEH τqJEEM τl@n%JEEM F*+$kτrMEEM F*+$kτrYEH F*+$yKHAH τl@n%MEEM F*+$kτ",
   "bbMEEM βl%HAH F*+$kτqYEH F*+$yYEH F*+$kI@baMEEM %+EF F*+$kMAKSURA I@baHAH τl@n%JEEM τrMEEM τ",
   "rYEH F*+$xJEEM τl@n%HAH τqKHAH τrMEEM τrYEH F*+$yKHAH τl@n%JEEM τrMEEM τrYEH F*+$yMEEM F*+$kτ",
   "l@n%YEH F*+$yYEH I@baOHAMMAD I@wNO; σkI@baHAH τl@nσxMEEM τrYEH F*+$wEH τmMEDI+$pJEEM τl@nσ",
   "xHAH F*+$kτqMEEM F*+$kτrYEH F*+$yKHAH τl@sMEEM βlσxYEH F*+$yNO; F*+$pREH F*+$oYEH F*+$kI@",
   "rZA* F*+$zQAF σkI@baHAH τl@rMEEM τl@n%HAH F*+$kτqMEEM F*+$pYEH F*+$yYEH F*+$kI@",
   "yLA USπAS KOR<IC STOP~ I@brUDDISA SIRRAHoRADI +LAAHU <HaAAcUMaAAdNNAsHIMAHU +LAAHhM +LAAH",
   "oSOUL I@tEH %SUP,SCRIPT +EF I@bnSAD σkI@baHAH τl@n%HAH F*+$kτqYEH F*+$xKHAH τrMEEM τl@",
   "n%MEEM F*+$kτbbREH F*+$kI@rYEH F*+$kI@yLAAMUHU +AYNAAnM I@qLA I@nUSπAS KOR<IC STOP~ I@",
   "boLLAAHU +AYHI WA-A+IHtHOU +AYHE WAS+LAMsU +AYHI WAA+IHEE WA-S+LAMbkEEN σkI@baHAH τl@nMEDI+$",
   "l%JEEM τzEH τmMEDI+$pJEEM τl@nMEDI+$lσxHAH τbaKHAH τl@nMEDI+$lσxYEH F*+$yMEEM τl@nMEDI+$",
   "l%HAH F*+$kτqJEEM τrMEEM F*+$kτbbREH F*+$kI@rYEH F*+$kI@baHADDA %DAMMA I@nMEDI+$mT< I@",
   "wFATHA I@nMEDI+$rKASRA I@nMEDI+$mT< I@wSUP,SCRIPT +EF I@boEEN σkI@baHAH βl%MEEM F*+$kτ",
   "rYEH F*+$wEH τmMEDI+$pJEEM βl%YEH F*+$yKHAH βqMEEM βl%KHAH F*+$kτrMEEM F*+$kτbbREH F*+$kI@",
   "rYEH F*+$kI@bbUBHA<AHU WA TAA+AAvTABA&AKA WA-TAA+AAsH σkI@baHAH τl@rMEEM τl@nMEDI+$l%HAH F*+$",
   "kτqMEEM τrYEH F*+$yYEH F*+$kI@zEH σkI@baHAH τl@n%JEEM F*+$kτrMEEM τzEH τmMEDI+$pJEEM τl@nσ",
   "xMEEM τrYEH F*+$yKHAH τl@nσxMEEM τrYEH F*+$yMEEM βlσxHAH τqJEEM τrKHAH τrYEH F*+$yNO; F*+$",
   "pREH F*+$oYEH F*+$kI@rZA* F*+$xH+ %SUP,SCRIPT +EF I@bmEH σkI@baHEH MEDI+$pJEEM I@sMEEM β",
   "qNO; F*+$pREH F*+$oYEH F*+$kI@rZA* F*+$zUIGHUR KIRGHIZ YEH %HAMZA: σkτl@cpWAS+LAM I@wYEH σkI@",
   "baHAH τl@n%YEH F*+$vMZA: %AE F*+$kI@p.F F*+$kI@nMAKSURA F*+$kI@baE F*+$kτl@pHAH τl@qEH τ",
   "mMEDI+$pJEEM τl@sKHAH τrMEEM βqNO; F*+$pOE F*+$kI@qREH F*+$oU F*+$kI@pWAW F*+$kI@rYEH F*+$kI@",
   "qU F*+$kI@qZA* F*+$bfEH τmMEDI+$pJEEM τl@n%YEH F*+$yKHAH τl@sMEEM βl%MEEM F*+$kτrYEH F*+$",
   "yNO; F*+$pREH F*+$oYEH F*+$kI@rZA* F*+$yZAH %MEEM τl@nMEDI+$biMADDA WAAJIBhH:kRK NO; GHUNNA",
   "lSIDEWAYS NO; GHUNNAxTHEMATIC+ A*c.FeBEHdDADbLcOT.SS BEHdFEHdNO;eQAFjUB.-STRUCK A*dBEHdDADbL",
   "dFEHdGHA*fHAHdJEEMeKHAHeLAMdMEEMeNO;eQAFdREHdSADcEENdHEENfTAHcEHcH+cEHeWAWdYEHdZAHb*sFEHdGHA*",
   "fHAHd*ITI+ A*dBEHdDADdFEHdGHA*fHAHcEHdJEEMeKAFcHAHeLAMdMEEMeNO;eQAFdSADcEENdHEENfTEHcHEHeYEH",
   "lJEEMeKAFcHAHeLAMcOOPπA*c.FeBEHdDADbLdFEHdGHA*fHAHcEHdJEEMeKHAHeLAMdMEEMeNO;eQAFdREHdSADcEEN",
   "dHEENfTAHcEHcH+cEHeWAWdYEHdZAHb*lMEEMeNO;eOP,ATOR HAH %D+mMEEM %HAH %TATWEELbjQAFdREHdSADcEEN",
   "dHEENeTRETCHπA*dBEHdDADcOT.SS BEHdFEHlFEHdGHA*fHAHcEHdJEEMeKAFcHAHeMEEMeNO;eQAFdSADcEENdHEEN",
   "fTAHcEHcHEHeYEHdZAHnTAHbI.D A*dDADcOT.SS NO;eQAFlGHA*fHAHdJEEMeKHAHeLAMdNO;eQAFdSADcEENdHEEN",
   "fYEHjEHcH+cEHeWAWdYEHdZAHb*rNUMB, M&K:kSIGNlOPEN DAMMAT<iFATHAT<iKASRAT<nP,CΔ~lIASTRE M&K:",
   "rLACE OF SAJDAHoOETIC V,SE~pUND M&K:qQUESκnRAISπROUND DOToYcEV,SπDAMMAn^>HEAD:_%DOToδ",
   "uOUNDπHIGH STOP %FIL.D CΔREbkSEMICOL;iHADDA_I@nMEDI+$rIGN +AYHE ASS+LAMpMISRAfRADI +LAHOU <HU",
   "pHMATULLAH +AYHEsSAFHAdLL+LAHOU +AYHE WASS+LAMbaMVATeNAHe*DHI AMP,S<DjPOSTPOSITI; MENxTAKH+LUS",
   "nM+L DAMMAfF&SI YEHhTHAfHIGH A*dDOT.SS HEAD OF KHAHuF&SI YEHiOOTNOTE M&K,pJEEMeLAM +EF",
   "hIGATURE +EF %LAM %YEHwQAF %LAM %+EF MAKSURAbeSAD %LAM %+EF MAKSURAbnMADDAeEEM τl@sNO;_%KASRA",
   "pQAFdROUNDπZ,OmSADcEENdIGN SAFHAkTAHcHREE DOTSkUPR^ RECT<GUL& Z,OyWAWcORD +-JUZfN-NISFgR-RUB",
   "fS-SAJDAhTH-TH+ATHAmQIFdSAHbKTAfWAQFAkYEH_B&REE %TWO DOTS δbeZAHb*jKASRAfLOW MEEMeNO; %KASRA",
   "pSEENeWAWcORD IMA+AfSHMAAMhTASHEELqWAWdYEHiT&T OF RUB EL HIZBtUBSCRIPT +EFmKUN_δfI@nMEDI+$",
   "pP,SCRIPT +EF MOKHASSASzYMBOL DOT:fδhUB. χB& δzFOUR DOTS:fδpR*GeSM+L TAH:fδpTHREE DOTS:fδ",
   "fPO*TΨDOWNW&DS:fδbiWO DOTS:fδfV,TIC+LY:fδzWASLA:sTAIL FRAGMΔlTWEEL_%FATHAT<:oOV,STRUCK HAMZA",
   "fWAWoTWO DOTS δbaHOUS<DS SEP&ATORs;E LOOP:fδk;E DOT:fδnTWO DOTS:fδsRIP. DOT PUNCTUAκ",
   "baURNπDAMMA δsχTAILmOWEL~ DOT δj*V,TπSM+L V:wSM+L V:yWAVY HAMZA δqZW&AKAYj-*DIC CUBE ROOTjD#,O",
   "kFOURTH ROOTlP, MIL.~kTEN ξ~bgCbIESdMENI< ABBREVIAκqPOSTROPHEkCAPIT+ μAYBdBENdC|bEHdOcDAcECHcH",
   "bTcFEHdGHADdIMdHOc*IdJAbHEHeKEHbNdLIWNeMENdNOWdOHcPEHcIWReRAbEHdSEHcHAdTIWNdOcVEWcOcXEHdYIaWN",
   "eZAbHErOMMAfDRAM~jEMPHASIS M&KmXCLAMAκqFULL STOPjHYPHENgMODIFI, μ.FT H+F R*GbeQUESκnSM+L μAYB",
   "dBENdC|bEHdOcDAcECHcHbTcFEHdGHADdIMdHOc*IdJAbHEHeKEHbNdLIWNeMENdNOWdOHcPEHcIWReRAbEHdSEHcHA",
   "dTIWNdObURNπAYBkVEWcOcXEHdYI_%ηmWNeZAbHEjIGATURE ECH YIWNiMEN ECHd*IdNOWdXEHhVEW NOW",
   "bdROW PO*TΨDOWNW&DS THEN CURVΨ.FTW&DSjR^W&DSbhR^W&DS THEN CURVΨDOWNW&DSjSOUTH WESTkUPW&DS",
   "bfUPW&DS THEN NORTH WESTbhHEAD-SHAPπPO*T,wTICULATπLORRYnST P+ETTEnSCENDΨNODElIAεkS,TI;hT,ISK",
   "_OP,ATORkMf;ISHπFACEmRAEAd;OMIC+ε FOR UR<USbcYMPTOTIC+LY EQU+ TOwTH.TIC SHOElOMεkUB,G*EhSTR+~",
   "kTO RICKSHAWjMATπTELL, MACH*EtOBI.jVEST< ABBREVIAκrμAaAaNbOcEaEcNbOcBEbHEdCEcDEbHEdEaEcFEcGE",
   "bGEcHEdHEbMEdIaIcJEcKEc.cMEcNEbGEbVEcYEdNEcYEdOaOcPEcREcSEbHEbYEdSHEeTEbHEcTEdUaUcVEcXEbVEcYE",
   "dYEbYEdZEbHEqOCADOgXEdBABY_<GELfBOTT.gCHICKfSYMBOLjCK OF ENVELOPEl%.FTW&DS>:",
   "bb-TILTπSHADOWπWHITE R^W&DS>bnSL<TπSOUTH> %ΞπTAILjRIZ;T+ TAILbnPACEg;cTRI< CAMELmDG,",
   "dM*T; RACQUET <D SHUTT.COCKbfGELcGAGE CLAIMkUETTE BREADmL*ESE ADEG ADEGjC&IK PAMUNGKAHhR,EN",
   "hSIKIkD#,OkμAIK&AfK&A_TEDUNGlRCHAIC JNYAlSYURA SASAKmBA_KEMB<GkCA_LACAhDA_MADUdURDA +PAPR<A",
   "jMAHAPR<AsEF SASAKhK&AfGA_GORAhHAcIK&A_TEDUNGmJA_J,AhKA_MAHAPR<AkF SASAKiHOT SASAKkLA_.NGA",
   "_TEDUNGpMAcNA_RAMBATiGAcYAdOK&A_TEDUNGmPA_KAP+iRA_REPA_TEDUNGoSA_SAGAcPAhTA_LATIK",
   "fMURDA MAHAPR<ApTAWAgZIR SASAKkUK&A_TEDUNGmVE SASAKiWAcYAcZ+ SASAKqMUSIC+ε COMB*ΨBENDEfENDEP",
   "fG;GeJEGOG<hKEMPLI_%JEGOG<pUL_%JEGOG<tTEGEHpDAENGd*GdNG_GEDEeSUR<GkENGcUNGe*Gd;GdUNG",
   "e.FT-H<D CLOSπPLAKcUKlOPEN P<Gd*GdUNGtR^-H<D CLOSπTAKcUKkOPEN DAGcUGbiPAMADA_L<T<GlENENGgNTI",
   "_L<T<GnSIGN BISAHfCECEKfR,EK<hSUR<GgULU C<DRAgRICEMoVOWEL~ LA .NGA_TEDUNGpPEPET_TEDUNGmRA REPA",
   "_TEDUNGoSUKU_ILUTjT+*G_REPA_TEDUNGlTEDUNGmEDUNGgULU_S&ItW*DUlL OF Y&NiET SHOESiO;",
   "a-SPOKπAST,ISKsT BOLD SCRIPT XlX_%B+LOTfOLD CHECKfSCRIPT XnCHECKfL^ XhSCRIPT XiXkSCRIPT XiX",
   "gMUM COL;dMB*ΨM&K KOQND;hTUKWΔISvMAfFULL STOPjμAbEEcFAAMAEfEEcOMcUcIbKAbENbTbUXdIbOaGHOMeVUU",
   "ePAcUbYEEeLAbEEEEeIbOQcUcMaAbBAAcENdEEEEdNcIbObUcNAbDAAdGAbGAcKWAENgIbJAEMdEEcUAEeSHAdTEEcUUdU",
   "aAEdYIdObPAbEEbUXdHASE-A FIRIeGBIEE F;iHEUAEGHEUAEgRAEjKAFAcQcETbUKEUTNDAjPOQdUOQeLAPAQeET KUT",
   "gOMMAEfUaAEPfMAEKEUPeMaBGBIEEgKPENeVEUXfNYIdSIdNSUAEfP PIEETiB<YIdQdEUNJOMNDEUQlGBASA",
   "f; NGGEUAETkOMEUTdPUQgVEUAENGAMkNAA MF;gQcDA .,AEWAj<GGEUAETlENcG<GUeGENdKUE MF;fNZEUMjIKAdJAM",
   "dKA&AEf*DIfSHAbIEEfTAP_MFAAeNTAAhOQPENgYETcIaT M;GKEUAEQoZA MF;gUN MEUTjPA .,AEWAjAMbRAEeMSHAE",
   "fSHAEfETc; MF; PIPAEMBAcGBIEEqPA NJI PIPAEMBAcGBIEEvUPdROMdSEUNYAMgH*DA PA NJIkRAE",
   "eOQ NSHUT YUMmUENSHUEThMdISAd;JAMeQbTcUUdTEUAENdTEUWENiITA MF;iU MAEMBAhAEPfU YUQ NAEiNKNOWN",
   "hVEEfB FEEbUXeGHEUGHENbUAEMlKAMcEUAEMdPUQdYEUXgIEEMdQdLA<AEeM NSHUT NYAMnETcOM NTEUMjMA",
   "_NJEUAENAgUQAhBA MAE.Eh&AEfEURIeIT MBAAKETkUOQeEUQbT NGGEETkFIYAQe; TEUAEQk;TIEENiNDU NJAA",
   "hGGAAMdEU MBUgUOQ_L&GEkK*DI MVOPkOMdSENcHUETfTIEE SHEUOQlYAEMAEfI NTEUMjP&UMeEESHIfITcUNGAAM",
   "hSAKEUAEgET TUfHET NJAQgUAEQTUiIEEdUEdTAAMdU MAEMGBIEEjNSIEEiVEUMeWUAETfYAFU .,AEWAmEURAE",
   "iC BUNGeFUEdGBAYIeHAPbRAEgKAAcEN FATIGUEhLAWfTbUKAQdMbSEUXdHEUAEPjP&AQfUOP NKA&AEkTdLAMbPcIQcU",
   "cMA KEUA,IhNSIEEgEMBAdSIeBAA CABBAGE-TREEmPICKETiNYIeEEKEETfRAEdUMbXdIaRIEENfTcUAEMdEdGBASAQ",
   "gIEEdUAEeN<S<AQgQcDAMbPcEUA,EEfTdIDAdOMBUfGAQcGENcUaAEN NYAMiEETdMb;eKAQcUE MAEMBAkOMdJAEMcM",
   "cEEEEdUXdUEQeSAbEUAENfHAQdOMcUNbOT NGOMjTAAcENbUNGBAgU MBIThYIR MKP&AQ MEUNqZAbEUMfPENc*bRIEEN",
   "hRUcSETF;eUXdHIQcUEQeUAETfTAASHAEgETbUTEUXgITA YUEfUAEPhVEUAEPENfXeW<GKUOQhUPdYAAcEUQdU MUOMAE",
   "hMbWOQhD FAAcEUFEUAETjGHAAcEUAEgKETbUAETMEUNhMbOT MBUAEiPdUaNbOMcQcWAETeYEEe.EEEdTbUAEPdMdIEE",
   "dOQcUMdMaAENJETf.,IgBAA_SEVENiUOdEEEEdUNbTdFEUAEcTdIEEdOaNdGBEUNdIEEdOFUMg;IdUbVOPeNDAMcEEbUX",
   "d;dGGAAMaAEePcEUXdUOMdWAENfKAPcEUAEQdRIeIEEdUNcYEEfIbJAPcEUAEMdTdIaEEdUEQeSHEEcUTdIEEPbTeUM",
   "dTEEbUMdUUdUbYAMcETcIbUEePAPcEEbUTAEfIPcUQbUTeRAEMdEN MUCHeOLDgIIdSAPbQcEUAEQfHEEbUAEcXdIIcOQ",
   "cUcOTcUAEcEbUdTAEcEEEEdUAENdNbTdIbOQcUaOTeWAPcUAENfYAEMMAEgENcUOMbPcWOQhE AbFAaQcEEcOMcU C+LeI",
   "bREMEDYhEaTeGBETbUXeHAAMAEfETbUAEcNbXdOMeIbKETbUAEcXdIbObPEUXeUETcOPcTdLAAMcPbQcEUAEMfOMb;bTcQ",
   "cUcMAaEaMcPbQcBEEbUMeENcFEUQeGBAbENeIaEEd;cUAEdVIdNAaEcDAA MY HOUSEiSOFTNESSkPcIAQcQcUNdGA",
   "bEUREUTgGEEEEdUAEaTfUAESHAE NYAMlPbRAEfKAaAMIeEUAEMdXdUMbPdOPbQcUAEaTfJAEMLIfEE_EPOCHhUXeKOM",
   "dSHIEEdUEbOPfTAPcUMdYI BETWEENhC.AV,kZAQcUQeObPA PEOP.fLUR+hAaMdEEMcUTbXdIaEEQcTdOa;dUaAEbQcE",
   "bMdRAEbQcEUXdIMGBAgSAAcEEbTcHEUAEQfIQcOaQdOMcUAENfTAAaQcEN NTEUMiMbQcENbUaAEQfOOaNcQcUAEcMaAE",
   "fVEEbUAEeOMdWEUXdUEbOdYAPcEUAEaTdMbXdIEEcTcOQ COV,fSWIMM*GlUAENdEQcNbQfF EEcFOMdKAbENbTcObPAcU",
   "bYEEeLAbIbOQdMaAbBAAcENdEEEEeOcNDAAdGGAcKWAENgIbJAEMdUAEeSHAdTEEdUaAEdYIdPEEbUXdUAEeREEbNbUX",
   "dIEEcIcUcSAMBAeEUXdHIIcObUcIbUUdTAAbEcETdUbVUEQeWAbUEdYAbOQkIbUAEcEdRAEcEEbNbUXdIEEcIcUcSAMBA",
   "eEUXdHEUXdIIcObUcIbUUdTAAbEcENbTcIcUbWAbUEdYAbOQcUQkNJAEMLIhQUESκnSEMICOL;nN<AdJOcK",
   "aNOTE %DOLL&~lEURO~jPOUND~kYEN~uR CH&TfOF SOAPiB, PO.jSEB+LfKETaB+L <D HOOP",
   "qSA VAH COMB*ΨHIGH T;Ef-LOW T;EnLOW T;Ef-MID T;EmMID T;EsFULL STOPjμAbBAcCEcDHIIdOcEaEbNNIeFA",
   "cGAHcBUdHWAHeIbJOcKAbPAHeMBEdOaOcPAcSEcTOcUaWUdVUcWAaDDAfYE*dIEdZOrTaAK C;S;<T~ HbNGrμAbBAcCA",
   "cDAcGAcHAcIbJAcK&O BAhLAcMAaNDAILΨHAcNAcSAmBAdNAbDAcGAcORTH,N TAkYAdPAaKPAK WAjRAcSA",
   "bIM+UNGUN AbGAcHAcLAcMAcPAcRAcSAcWAcYAmOUTH,N TAlUbWAcYAjP<GOLATf;G;<kSIGN TOMPI",
   "jYMBOL B*DU JUDULfNA METEKiP<GOLATh*&BORASxVOWEL~ EaEcIbK&O IbOgObPAKPAK EiU_FOR SIM+UNGUN SA",
   "bhHaTUBeT,YgEACH %UMBRELLAqMπASCENDΨMUSIC+ NOTESxDESCENDΨMUSIC+ NOTESyE^H NOTESmSIXTEΔH NOTES",
   "tNScR FACEfDπP,S;lTΨHE&TkV,eCAUSEfDb, MUGfT.eLaL_PEPP,gSYMBOLg%C<CELLATI; ηzHOP BELL",
   "kNG+I ABBREVIATI;~qNJIdU .NGTH M&KoCURRENCY DENOM*ATOR SIXTEENtNUM,ATOR FOURe;E",
   "_.SS TH< THE DENOM*ATORbdTHREEeWOwD#,OkG<DA M&KkISSH&gμAaAbIbUcB|dC|dDAbD|dHAdEbG|dHAcIaIcJ|",
   "dK|aNDA TAjLAcMAcNAbGAcNAcYAdObP|dRA_%LOW, DIAG;+oΛDIAG;+wHAcRAdS|cSAdT|cT|eUaUcVEDIC <USV&A",
   "nOC+IC LaLcRaRkYAbYAkRUPEE M&KeSIGNkS<DHI M&KkIGN <USV&AhVAGRAHAiC<DRAB*DUlNUKTAfVIRAMAeS&GA",
   "mVOWEL~ AAbIbUcEbIaIcObUaUcVOC+IC LaLcRaRbaT> PO*TΨDOWNW&DS THEN NORTH EASTbpO BOXgZENE R*G",
   "_%CIRC.wTεhWEENfV,AGE BOXlHAIKSUKI D<DAe#,OjOUB. D<DAmGAP FILL,-1b2mφS UNIT M&KsμAaAbIbUcB|dC|",
   "dDAbD|dHAdEbG|dHAcIaIcJ|dK|dLAcMAcNAbGAcNAcYAdObP|dRAcS|cSAdT|cT|eUaUcVAbOC+IC LbRaRkYA",
   "jNUMB, E^aYgFIFTYdVEdORTYdUReN*EaTYg;EdSEVENaTYgIXaTYfTENcHIRTYeREEeWΔYeOkSIGN <USV&AhVAGRAHA",
   "iC<DRAB*DUlVIRAMAeS&GAmVOWEL~ AAbIbUcEbIaIcObUaUcVOC+IC LbRaRvWORD SEP&ATORxICYC.bIST",
   "hG REV,SE SOLIDUSpSOLIDUSjK*IeL.D CAPgI&DShOHAZ&D~mRDbTHDAY CAKElS;dTCO*~jΨLIPjLACK BOWTIE",
   "gCΔRE WHITE ST&qHESS BISHOPιESbqEQUIHOPP,_ROTATπN*ETY DEGREESbhK*GιESbnN^",
   "_ROTATπFORTY-FIVE DEGREESsN*ETY DEGREESo;E HUNDRπTHIRTY-FIVE DEGREES",
   "bfTHREE HUNDRπFIFTEEN DEGREESbcWO HUNDRπSEVΔY DEGREESpTWΔY-FIVE DEGREESbo-BISHOPgQUEENfROOK",
   "lPAWNιESboQUEENιESbpROOKιESboTURNπBISHOPgK*GdN^gPAWNeQUEENfROOKqIRC._FOR RECORDk%DOWN>",
   "kTWO WHITE DOTSoWHITE DOT R^baLUB SUITiROSS ; SHIELDoURVπDOWNW&DS <D .FTW&DS>pR^W&DS>",
   "be.FTW&DS <D DOWNW&DS>pUPW&DS>bbR^W&DS <D DOWNW&DS>pUPW&DS>bcUPW&DS <D .FTW&DS>pR^W&DS>",
   "bjDIAM;D_CΔREDhM*US WHITE Xn; CROSSiSUITe%DOWN>wOWN PO*TΨBACKH<D *DEXy-PO*TΨΦ TRI<G.",
   "pISOSCE.S R^ TRI<G.ySM+L TRI<G.oTRI<G.sW&DS EQUILAT,+>HEADbeRAUGHTS K*GeM<kOP.ThFLAGcORETTE",
   "hOLD,eUR PO*TπST&rH&D SHELL FLOPPY DISKvE&T_SUITiXAG;gORIZ;T+ ELLIPSEqURGLASSjL&GE CIRC.gSQU&E",
   "lEFT L<E M,GEkPO*TΨBACKH<D *DEXo*DEXp-PO*TΨΦ TRI<G._%χB&bhISOSCE.S R^ TRI<G.yPO*T,hSM+L TRI<G.",
   "oTRI<G.sW&DS BUL.TgEQUILAT,+>HEADbeOW, .FT TRI<G.nR^ TRI<G.sZENGEhMEDIUM DIAM;D",
   "gOWN-PO*TΨTRI<G._CΔREDbe.FT-PO*TΨTRI<G._CΔREDbdOZENGEhR^-PO*TΨTRI<G._CΔREDbfSM+L DIAM;D",
   "hLOZENGEhSQU&ElQU&EgUP-PO*TΨTRI<G._CΔREDbiO; LILITHlNIBdOCTAG;hP&+.LOGRAMmENN<TeTAG;hUSHP*",
   "hQUESκ ORNAMΔwRECT<G.i^ PO*TΨBACKH<D *DEXo*DEXp-PO*TΨΦ TRI<G._%χB&bhISOSCE.S R^ TRI<G.yPΔAG;",
   "hO*T,hSM+L TRI<G.oTRI<G._%Φ χB&brW&DS>aHEADjBUL.TgEQUILAT,+>HEADbfOSETTEhSAFETY SCISSORS",
   "oCISSORShHOGI PIECEkKULL <D CROSSB;EStL^LY SM+L CIRC.gSQU&EuM+L DIAM;DhLOZENGEhSQU&EfT&",
   "iILΨFACElNOWM<gPADE SUITjQU&E_BUTT;gCΔREDhFOR STOPoT&dUN %RAYSnTE.PH;Ei*Y DIAM;DhLOZENGEhSQU&E",
   "kOUCHT;E TE.PH;EsRUCKeWO-WAY .FT WAY TRAFFICyUNIV,S+ RECYCL*GεzP PO*TΨBACKH<D *DEX",
   "y-PO*TΨΦ TRI<G.pISOSCE.S R^ TRI<G.ySM+L TRI<G.oTRI<G.sP, .FT TRI<G.nR^ TRI<G.",
   "sW&DS EQUILAT,+>HEADbdχELLIPSEhRECT<G.pY SM+L DIAM;DhLOZENGEhSQU&Es-FEATH,πNORTH EAST>qR^W&DS>",
   "qSOUTH EAST>baμCAPIT+ CbHbIbRbZtNKεkOCK SEXT<T-1a2a3a4a5b6c5a6c6c4a5a6c6c5a6c6c3a4a5a6c6c56c6",
   "c4a5a6c6c5a6c6c2a3a4a5a6c6c5a6c6c4a5a6d5a6c6c3a4a5a6c6c5a6c6c4a5a6c6c5a6c6mSSOMeWFISHgUE BOOK",
   "eHE&TgB,RIESkO&cLD E^ SPOKπAST,ISKvFIVE SPOKπAST,ISKuGREEK CROSSlS+TIREgIX SPOKπAST,ISK",
   "tWHITE CIRC.gSQU&EpMaBcNEcOKaM&K_TABSjScM,<GhPOMOFO F*+ μGbHbKbPbToμAaHbIaNNdMbNaGbNcUaNNeBaU",
   "cCaHcDbEaEbHbIbNaGbNcRcFbGaHbNbUbWcHbIaHbMbNNaNdRbUcJaIcKaWcLaHcMbNaGaGcNcO_%DOT:pEbMbNGbNcObU",
   "cPbQbRbSaHcTbUaNNdVbXbZaHbIbYqTT. %POPPΨCORKuOM &C <TICLOCKWISE>xCURLYθnH+F BLACK CIRC.m*TEGR+",
   "i.FT P&ΔHESISqR^ P&ΔHESISw.FT CORN,fROPeH+FθrP&ΔHESISlR^ CORN,fROPeH+FθsSQU&Eθ_OV, TOP SQU&Eθ",
   "bmTORTOISE SHELLθbbUQUET_OF FLOW,SqW <D>kL OF HYGIEIAk%SPO;l*GeTIE_%.FT H+F BLACKpR^ H+F BLACK",
   "baX DRAW*GS Φ DOWN <D υk.FTeR^oυkUP <D υk.FTeR^mV,TIC+_<D υk.FTeR^xWN Φ <D υ S*G.r.FT S*G.",
   "lR^ S*G.xHEAVY <D υ L^q.FT L^fUP L^nR^ L^fUP L^oUP υ L^bdL^ <D υ HEAVYq.FT HEAVYfUP HEAVY",
   "nR^ HEAVYfUP HEAVYoUP υ HEAVYbdS*G. <D υ Φr.FT ΦlR^ ΦbcHEAVY Φ DASH υkV,TIC+sWN_<D υk.FTeR^oυ",
   "k.FT_<D L^ R^uQUADRUP. DASH υkV,TIC+xR^fTRIP. DASH υkV,TIC+uUP_<D υk.FTd^ DOWNkR^mV,TIC+_<D υ",
   "k.FTeR^y.FT DOWN HEAVY <D R^ UP L^bdHEAVY <D R^ DOWN L^kUP L^iχL^beL^ <D R^ DOWN HEAVY",
   "kUP HEAVYiχHEAVYbeUP HEAVY <D R^ DOWN L^bh^ &C DOWN <D .FTeR^oUP <D .FTeR^qDIAG;+ CROSSfDIAM;D",
   "hΛ.FT TO LOW, CΔRE_TO ΛR^bcUPP, CΔRE TO ΛR^_TO LOW, CΔREcaR^ TO LOW, CΔRE",
   "mUPP, CΔRE TO Λ.FT TO LOW, CΔREchUPP, CΔRE TO Λ.FT_<D ΛR^ TO LOW, CΔREbgTO LOW, CΔRE_TO ΛR^",
   "bkR^_<D Λ.FT TO LOW, CΔREbfTO LOW, CΔRE_TO Λ.FTcb.FT TO LOW, R^tR^ TO LOW, .FTbhOUB. DASH υ",
   "kV,TIC+sWN_<D υk.FTeR^oυ_%χηbf.FT_<D HEAVY R^uQUADRUP. DASH υkV,TIC+xR^fTRIP. DASH υkV,TIC+uUP",
   "_<D HEAVY DOWNjORIZ;T+k.FTeR^mV,TIC+_<D υk.FTeR^yR^ DOWN HEAVY <D .FT UP L^",
   "bcHEAVY <D .FT DOWN L^kUP L^iχL^bdL^ <D .FT DOWN HEAVYkUP HEAVYiχHEAVY",
   "bdUP HEAVY <D .FT DOWN L^biUP Φ <D υ S*G.r.FT S*G.lR^ S*G.xHEAVY <D DOWN υ L^vυ L^q.FT DOWN L^",
   "kL^kR^ DOWN L^kL^vL^ <D DOWN υ HEAVYvυ HEAVYq.FT DOWN HEAVYkHEAVYkR^ DOWN HEAVYkHEAVY",
   "vS*G. <D υ Φr.FT ΦlR^ ΦbaχΦ <D υ S*G.r.FT S*G.lR^ S*G.xHEAVY <D υ L^q.FT L^kR^ L^",
   "vL^ <D υ HEAVYq.FT HEAVYkR^ HEAVYvS*G. <D υ Φr.FT ΦlR^ ΦbqΨGLOVEkYaSεkPHcRAHMI D<DAe#,O",
   "jOUB. D<DAmμAaAbIbUcB|dC|dDAbD|dHAdEbG|dHAcIaIcJ|dK|dLAbLAdMAcNAbGAcNAcYAdOaLD TAMIL LLAbLA",
   "eNNNAeRRAdSHORT EbOrP|dRAcS|cSAdT|cT|eUaUcVAbOC+IC LaLcRaRkYAjNUMB, E^aYgFIFTYdVEdORTYdUReJO*,",
   "gN*EaTYg;E_φhξmSEVENaTYgIXaTYfTENcHIRTYeREEeWΔYeOkPUNCTUATI; CRESCΔ B&mDOTbUB. DOTkL*EdOTUS",
   "rSIGN <USV&AiC<DRAB*DUlJIHVAMULIYAlOLD TAMIL VIRAMAqUPADHM<IYAlVIS&GAmVIRAMAfOWEL~ AAbIbU",
   "cBHATTIPROLU AAoEbIaIcOaLD TAMIL SHORT EbOrUaUcVOC+IC LaLcRaRzIL. PATT,N BL<KfDOTS-1a2a3a4aΣcΣ",
   "c4aΣcΣc3a4aΣcΣc4aΣcΣc2a3a4aΣcΣc4aΣcΣc3a4aΣcΣc4aΣcΣsNdEADbK P,MITTπH,EqST-FEED*GlVEdICK",
   "cDE %VEILlGE AT N^mEFCASEeSeOCCOLIfKEN B&dCIRC. %NORTHWEST>bbHE&TjOMcWN HE&TkSbUBB. TEAeSfCKET",
   "eGa*ESE END OF SECTI;oμAbBAcCAcDAcGAcHAcJAcKAcLAcMAbPAdNAbGAbKAdRAcYAbCAePAcRAcSAcTAcVAcYA",
   "jP+LAWAhVOWEL~ AEcEbIbObUtHID μAbBAcDAcGAcHAcIbKAcLAcMAcNAbGAdPAcRAcSAcTAcUbWAcYAjVOWEL~ IbU",
   "qILDΨC;STRUCTI;tL.T_OP,ATORlHORN_%SOUND WAVESvSEYEgRRITOfS_STOPfT * SILHOUETTEoS * SILHOUETTE",
   "rTT,aFLYiYTE ORD, M&KnZ<T*E MUSIC+ε AGOGI &GIbOT,IiGORGIbOT,IjMESIcTRIAgPOLI &GIeGORGI",
   "pNATRICHISMAkTIKENOKYLISMAhMAjPESO EKF;ITIK;kXO NEOlLIcOD,MA &CHAI;iNEOjSTROFOI SYNDESMOS NEO",
   "nTELOUS ICHIMATOSsS_DIPLIfNEOlTHEMAhRG;bSYNTHET;lKTIKO DIcGAcKEcNIcPAcVOUdZOkCHAMILIb;",
   "gOREVMA &CHAI;iNEOkROA KLIT;gSPATHIgZYGOSlDASEIAfI&G;eSTOLI APLI MEG+IfIKRIkDIPLIfTHESEOS",
   "oESIS APLI DYO DODEKATArDIGRAMMOS EX DODEKATAvM;OGRAMMOS TESS,A DODEKATAbcTET&TIMORI;",
   "mRIGRAMMOS OKTO DODEKATAvTIMORI;qFTOGGOS OUkGORG;_P&ESTIGMEN; &IST,A <OdKATOnDEXIAzRAMMA GG",
   "jPLI_&CHAI;nYOdEKSTREPT;jLAFR;gN&XIS KAI FTHORA VOUuDOF;;iPEG,MAhT,; &GOSYNTHET;nP&AK+ESMA",
   "rXO EKF;ITIK;pF<,OSIS DIF;IASiM;OF;IASkTETRAF;IASuHTORA SKLIR; CHROMA VASISbaTHORA &CHAI;",
   "_DEYT,OU ICHOUxDIAT;IKI DIcKEcN<AdI <OdKATOhPAcZOmEN&M;IOS <TIF;IAuI YFESIS TET&TIMORI;",
   "wM+AK; CHROMA DIF;IASiM;OF;IASzNAOS ICHOSjEN<OgSKLIR; CHROMA SYNAFIgVASISmDIAT;; DI",
   "baGENIKI DIESISgYFESISmORG; &CHAI;iNEO <OdKATOiP&ESTIGMEN; &IST,AiDEXIAvSYNTHET;",
   "lTHMIK; N APLOUNgDIPLOUNtR;THISMATAmICHAD*gMIDI&G;hF;;eTHORAb;jSAKIA TELOUS ICHIMATOSv; &CHAI;",
   "iNEOiKATAVA TROMIK;jSMAgHISTIhΔIMA &CHAI;iNEO <OdKATOeMESOjTA_&CHAI;iNEO <OdKATOeMESOrLASMA_<O",
   "dKATOk;TEVMA_+LOlR;ISfUFISMAhRATIMA +LOdRCHAI;iNEOeTAdOKOUFISMAiYPORRO;nEMASTIhYLISMA",
   "h.IMMA DYO CHR;;lENOS CHR;OUmIMISEOS CHR;OUpTESS&; CHR;;pRI; CHR;;sMOIeYGISMA",
   "hM&TYRIA +LI DEYT,OS ICHOSoPROTOS ICHOSrDEYT,OS ICHOSo.GETOS ICHOSnPLAGIOS ICHOSfTET&TOS ICHOS",
   "vROTOS ICHOShV&YS ICHOSqTET&TOS ICHOSf.GETOS ICHOSvRIF;IASgTOS ICHOSmV&YS ICHOStIKR; IS;lN<A",
   "eOLIG; &CHAI;iNEOjM+;fXEIA DIPLIfEKF;ITIK;lNEOeI &CHAI;oYR<ISMA &CHAI;iNEOnP&AK+ESMA &CHAI;",
   "iNEOkLITIKI_&CHAI;iNEOmICH;hELAST;_NEOkRISPOMENIjTASMAcTIbOKOUFISMAoIASMA &CHAI;iNEO",
   "jSIFISTOLYGISMAhN_NEOfP&AK+ESMAlSYNAGMAmLIb;gRAPISMAgEVMAfSAXIMATAhEISMA_NEOjIM<SIS &SEOS",
   "_DISIMOUhTETRASIMOUjRISIMOUpTHESEOS_DISIMOUhTETRASIMOUjRISIMOUyTAVROS_APODEXIAoIGMAeRAGGISMATA",
   "lYNAGMA &CHAI;iMETA STAVROUmNEOiEVMAfRMAaTIKIjTE.IAeSS,AfTRAPLIhHEMA_APLOUNhTISMOS ESOcXO",
   "mS KAI APOTHESoITAe*AGMAgRIAbGORG;gPLIeOMIKOLYGISMAhN +LOdRCHAI;iNEOfP&AK+ESMAkSIFIST;jSYNAGMA",
   "oV&EIA DIPLIfEKF;ITIK;lNEOeI &CHAI;oTHYfXIR; KLASMAmYFEN <OdKATOgSIS APLI DYO DODEKATA",
   "rDIGRAMMOS EX DODEKATAvM;OGRAMMOS TESS,A DODEKATAbcTRIGRAMMOS OKTO DODEKATAvTIMORI;rPOKRISIS",
   "_DIPLImRROIfSILIbfCACTUSeDA UNAfUCEUSg.ND&fL ME H<DkM,A_%FLASHoP*GfNaADI< SYLLABICS AaAaIbYcI",
   "aVILIK BiNbTHAPASC< MbSlYcBEAV, DENE LbRmIB.-CREE YlLACKFOOT AbEbIbKAbEbIbOcNAbEbIbOcObSbWaAbE",
   "bIbOmCaAaAaIcRRI, CHAbΩbUdDEEbNE GEEfT+ ShIbLAbΩbUcZAbΩbUdEEcGAaAcEaEcHAbΩbUcIbObUbWAbUdHaEEcI",
   "bWAbΩbUdIaNITI+ ZjJAbEaEcIbJAbΩbUcObUbWAdKHAbΩbUcKaAbΩbUdLAbEaEcHAbΩbUcIbObUcMAbΩbUcNAbEaEcGbI",
   "bObUcPaAbΩbUcRAbΩbUcSAbEaEcHaAbΩbUcIbObUcTHAbΩbUcLAbEaEcHAbΩbUcIbObUcSAbΩbUcTAbΩbSAbΩbUcUdWAbΩ",
   "bUcYAbΩbUcZaAbΩbUjEbHI~hIaIcOaOcWAaAcEbIaIcOaOeEaAST,N WiNcFaAaAaIdEbIaIbN+ ACUTE",
   "fBOTTOM H+F R*GqΦ ACUTEfSHORT χηSbbWN TACKjGRAVEfΛDOTkPLUSeRAISπDOTj^ H+F R*GnNGeSHORT υ η",
   "wM+L R*GkTOP H+F R*GsOaOcULL STOPiWAAeGLOTT+ STOPmHKbYPHENgIaIbNcKaAaAaIcYcEbIaIcOaOcWaAaAbYcE",
   "bIaIcOaOeLaAaAaIcYcEbHaAaAcIaIcOaOdIaIcOaOcWAaAcEbIaIcOaOeMaAaAaIcYcEaDI+ LbRhHbIaIcOaO",
   "aSE-CREE SKmWAaAcEbIaIcOaOeNa-CREE THEbIaIkAaAaIcSKAPI CWAAeKWAAeMWAAeNWAAeS-WcCWAdKWaAdPWA",
   "dTWAdWAAeTWAAeWAAcOOdYWAAkTTILIK HAaAcIaIcOaOdSHRAaAcIaIcOaOmYcEbGaAaAaIcIcIaIcOaOdHbIaIcNGaA",
   "aAcIaIcOaOeOaObYcUNAVIK HaAaAcEbIaIcOaOgUT HiWAaAcEbIaIcOaOeOaJIBWAY CbKbMbNaWIaIcOaOePbSaHcT",
   "iNbObYcPaAaAaIcYcEbIaIcOaObYcWAaAcEbIaIcOaObYeQaAaAaIcIcIaIcOaOdRa-CREE REbWEjAaAaIcYcEbIaIcO",
   "aOcWAaAcEEcIaIcOaOeSaAaAaIcYaISI HAbEbIbOaOdJIbUaUdMbSHAbEbIbOaOcWEeTHcYIiEbHaAaAbYcEbIaIcOaO",
   "bYcWAaAcEbIaIcOaObYeIaIcOaObUTH-SLAVEY KAHcEHcIHcOHoYcPAbEbIbOcWaAaAcEbIaIcOaOeTaAaAaIcYcEbH",
   "a-CREE THaAaAcEbIaIcOaOkAaAcEbIaIcOaOcWAaAcEdIaIcLHAbEbIbOaOcWEeOaOcTAbEbHaAaAcEbIbOaOcWEdIbO",
   "cWAaAcEbIaIcOaOdYAbEbIbOdWAaAbYcEaST-CREE CWAaAcEbIaIcOaOeFWAAeKWAaAcEbIaIcOaOeLaAaAcEbOaOcWA",
   "aAcEbIaIcOaOeMaWAaAcEbIaIcOaOeNWAaAcEdPaWAaAcEbIaIcOaOeRaAbEbIbObWAAeSHWAaAcEbIaIcOaOeWAaAcEbI",
   "aIcOaOeTHWAAeWAaAcEbIaIcOaOeWAaAcEbIaIcOaOdYaWAaAcEbIaIcOaOk,N WiIaIcOaOaDS-CREE F*+ THiTHaAbE",
   "bIbObWAaAcEEcIaIcOaOqYa-CREE COOdKOOdLOOdMOOdNOOdOOcPOOcWAAeSOOdTOOdWbYOOjAaAaIcYcEbIaIcOaObY",
   "cWAaAcEbIaIcOaOuCEL_CH&ACT,jTAGeLATI; XjRdD.cYcNπFOODiOEdPITULUMgRICORNhR SLID*GiD FI. BOX",
   "i*DEX_DIVID,SqE OFdT_*S,TI; PO*TsI< μAa2cBbC-18c39eDa2cEa2cGa2cIaIcKa2cLaDa2dMaBa2b3b4dNaDbGbN",
   "cObPa2cQbRaRcSaHa2cSbTa2dTaTa2dUaUaUa2b3bUeXm;bUSEL HORSElP STREAM,jΔRY SAWkRIAGE RETURNlOT",
   "eST.eT_FACE_%TE&S OF JOYmWRY SMI.vUCASI< +B<I< CITAκnμ+TcORdBETdC&bYNdHAaTcIbOYdYAWbYeDATcY<",
   "dZAYcYAYfEBbYNdFAMdGHEYSeIMdHEYTe*YAdRBcWNdJAYNdHOXeK&cIWdL<cYITeMAQdNOWCe;cPENcIWReQ&bYdRAT",
   "dSEYKdHAaKcOYeTAScIWRdYAYeVEYZeXEYNeYAYDdOWDeZ&LdHAbILbbTI;~lCHcEDI~fLLAfLTIC CROSSkNT~",
   "fRE L*EεmL*E LOW L*EiOV,L*ErRESeGJcHA*ScRcKMA AU M&KhD<DAe#,OjOUB. D<DAmμAAcBAAcHAAeCAAcHAA",
   "eDAAcDAAcHAAeHAAeEbGAAcHAAeHAAdIbJAAcHAAeKAAcHAAeLAAcHAAeMAAdNAAcGAAdNAAdYAAePAAcHAAeRAAdSAA",
   "dTAAcHAAdTAAcHAAfUbVAAdWAAdYAAcYAAlMAAYYAAhO M&KgQUESκnSECκlIGN <USV&AiC<DRAB*DUlVIS&GAmVIRAMA",
   "fOWEL~ AaAbIbUcEaIcIaIcOaIcUaUrM C;S;<T~ F*+ HbMbNGiLAcRAcWAcYArD#,OkμAaIcBAbBAcHAdCH|eDAbDA",
   "cHAdEbF*+ CHcGbKbLbNaGcPbRbSScTbYhG|dHAcIbJ|dK|dLAcMAbUEdNAbGAbUEdHAbJAcUEdUEdObP|cPAdRAcSAbSA",
   "dT|dUbVAcYAjPUNCTUATI; D<DAeOUB. D<DAmSPIR+gTRIP. D<DAyVOWEL~ AAbIbUcEIcIaIcOaEcUaE",
   "pRACT, TABULATI;_SETd%JUSTIFICATI;bcIEjT %DOWNW&DS TRENDpUPW&DS TREND_<D YEN~bjECK M&Kf, BO&D",
   "_FILLp,ΨMEGAPH;EoSE WEDGEjQU,πFLAGlROKEE μAbDAbEbIbLAcObUbVcEbGψbVcHAbEbIbNAcObUbVcIbKAcLψbV",
   "cMψbVcNAaHcEbIbObUbVcObQUψbVdSaψbVcTAbEbIbLψbVcSψbVdUbVbWψbVcYψbVjSM+L μAbDAbEbIbLAcObUbVcEbGψ",
   "bVcHAbEbIbNAcObUbVcIbKAcLψbVcMψbVcNAaHcEbIbObUbVcObQUψbVdSaψbVcTAbEbIbLψbVcSψbVdUbVbWψbVcYψbV",
   "uRIESdY BLOSSOMlSTNUTgI RHOeCKENeLDaREN CROSS*GoPMUNKfR;eOCOLATE B&kPSTICKShRASMI< μ+EPHeY*",
   "eBETHeCUR.D WAWkD+ETHgGIMELfHEaTHeKAPHeLAMEDHgMEMdNUNdPEcRESHeSAMEKHfH*dM+L +EPHlTAWdWAWdYODH",
   "eZAY*mNUMB, FOURe;E_φlTENcHREEeWΔYeOtRISTMAS TREEmURCHf*EMA",
   "eRC. DIVIDπBY υ B& <D TOP H+F DIVIDπBY χB&ck%+L BUT UPP, .FT QUADR<T BLACKbhυ B&o.FT H+F BLACK",
   "oOW, H+F BLACKqR^ H+F BLACKqSM+L CIRC. TO THE R^yUP,IMPOSπXoTWO υ ηS TO THE R^bjUPP, H+F BLACK",
   "kR^ QUADR<T BLACKbaχFILLtD <TICLOCKWISE>g-ROTATπDIVISI;~biST,ISK OP,ATORrBOLD XfUL.T",
   "gC %OV,LAID BACKSLASHyCbDbROSS$EE_%FOUR DOTSjTWO DOTSuPOMMEEhΨL<ESoDASHd#,OiVISI;~dLASH",
   "nOLL&~ %OV,LAID BACKSLASHbhT OP,ATORmEQU+SgGREAT,-TH<mH<GUL CHIEUCH_AiIEUC_AhHIEUH_AhIEUNG_AbU",
   "hKHIEUKH_AiIYEOK_AiMIEUM_AhNIEUN_AhPHIEUPH_AiIEUP_AhRIEUL_AhSIOS_AgTHIEUTH_AiIKEUT_A",
   "oEAVY WHITE R^W&DS>bbORIZ;T+ B& %NOTCHyUM< FIGUREmIDEOGRAPH ACCEPTfDV<TAGEiLLI<CEhTTΔI;jCΔRE",
   "f;GRATULATI;mPYcRRECThE&THe^eNT,PRISEjXCEL.NTjFEM+Ef*<CI+hREcVEdOUReHAVEdIGHeITEMeK*D,G&TEN",
   "lOTOeLABOReEFTdOWdM+EdEDIC*EgT+eO;eNAMEd^dNEe;EdPR*TfQUESTI;iRELIGI;gSOURCEfTd^fSCHOOLfECRET",
   "eVENeIXcOCIETYgPECI+gTOCKdUDYeUITAB.gNbP,VISEjTENcHREEeWOdWAT,eOODnNFORMATI; SOURCE",
   "rT+IC LAT* CAPIT+ μCbRbdKATAK<A AbEbHψcIbKψcMψcNψcObRψcSψcTψcUbWAbEbIbOcYAbObU",
   "kORE< CH&ACT, CHAMKOgJUEUIwLAT* CAPIT+ .TT,γbZqSM+L .TT,γbZtESS-TH<jM*US",
   "eULTIPLICATI;~ %CIRCUMF.X ACCΔbqNUMB, E^EENdY ; BLACK SQU&Ev.VENgFIFTEENdY_; BLACK SQU&EuORTY",
   "_E^fFIVEdOUReN*Ee; BLACK SQU&EnEdSEVENeIXdTHREEeWOhURTEENiN*ETEENiSEVΔEENdY ; BLACK SQU&E",
   "wIXTEENdY ; BLACK SQU&EvTEN_; BLACK SQU&EsHIRTEENdY_E^fFIVEdOUReN*Ee; BLACK SQU&EnEdSEVENeIX",
   "dTHREEeWOjWELVEdNTY_E^fFIVEdOUReN*Ee; BLACK SQU&EnEdSEVENeIXdTHREEeWOrOPEN CΔRE E^ PO*TπST&",
   "beP&+.Lh,PENDICUL&mLUSdOST+ M&KlREV,SE SOLIDUSoΨOP,ATORnSQU&EgTIMESeRI<G._DOWNnχB&mWHITE BUL.T",
   "gST&jZcXbZ,O %SLASHtULATI; FUNCTI;pMF.X ACCΔmS TΔjTYSCAPE_AT DUSK",
   "qJK COMPATIBILITY IDEOGRAPH-2F80!bαc1!bαc2!bαc3!bαc4!bαc5!bαc6!bαc7!bαc8!bαc9!bαcA!bαcB!bαcC!",
   "bαcD!bαcE!bαcF!bαd90!bαc1!bαc2!bαc3!bαc4!bαc5!bαc6!bαc7!bαc8!bαc9!bαcA!bαcB!bαcC!bαcD!bαcE!bα",
   "cF!bαdA0!bαc1!bAbBbCbDfF90!bαc1!bαc2!bαc3!bαc4!bαc5!bαc6!bαc7!bαc8!bαc9!bαcA!bαcB!bαcC!bαcD!bα",
   "cE!bαcF!bαdA0!bαc1!bαc2!bαc3!bαc4!bαc5!bαc6!bAbBbCbDc7!bαc8!bαc9!bαcA!bαcB!bαcC!bαcD!",
   "bcRADIC+ BAMBOOfLUEdOLT OF CLOTHlNEcXcRUSH ;EdTWOjC-SIMPLIFIπBIRDeC&TeDRAG;gEATcVENeFISHdLY",
   "cROGeGATEdOLDeHORSEf.AFd;GeS+TdEEcHELLeILKdPEECHgT<Nπ.ATH,nOOTHeURT.gW*DqHOKEeITYcVILI<hLIFF",
   "dOTHESgOWdDEATHeIV*ATI;jOGdEAT ;EdTHREEeWOgWEcYEdFIREdOOTeGHOSTeRASS ;EdTHREEeWOjH<DdEADbRT ;E",
   "dTWOiORNeJ-SIMPLIFIπDRAG;gEVENeTOOTHeURT.sADEeKNIFE ;EdTWOjLAME FOURe;EdTHREEeWOh;G ;EdTWO",
   "iMEATcSHdO;cRT&eTH,eUND ;EdTWOjNET FOURe;EdTHREEeWOhOLDdPAW ;EdTWOg,S;gRA*cMbPcEPEATgSE+",
   "cC;D ;EdTHREEeWOjHEEPeILKcMPLIFIπH+F TREE TRUNKoORNeW+KdHEATfYELLOWqM+L ;EdTWOiNAKEdOUT ;EdTWO",
   "iPIRIT ;EdTWOjUNdTAB.eHREADfIG,eURT.gW+K ;EdTWOgT, ;EdTWOiEST ;EdTWOqη BXGdDbHaGbPaWGdXWGdZaG",
   "bTbWaGcZaPbZaGfNbPaDbGbZcQbSaGbPbTbWaGbZcZaWGcZdTaNcWGcXGmLAMSHELL MOBI. PH;EtPP, BO&DiΨH<DS~",
   "qSSIC+ BUILD*GqE& SCREENεr*KΨBE, MUGSjGLASSESnPBO&DhOCK FACE E^ OCLOCKh-THIRTYl.VEN OCLOCK",
   "h-THIRTYnFIVE OCLOCKh-THIRTYkOUR OCLOCKh-THIRTYlN*E OCLOCKh-THIRTYl;E OCLOCKh-THIRTY",
   "kSEVEN OCLOCKh-THIRTYlIX OCLOCKh-THIRTYkTEN OCLOCKh-THIRTYjHREE OCLOCKh-THIRTYlWELVE OCLOCK",
   "h-THIRTYlO OCLOCKh-THIRTYqWISE CLOSπCIRC.>s;TOUR *TEGR+qDOWNW&DS <D UPW&DS OPEN CIRC.>S",
   "boGAPPπCIRC.>t*TEGR+iOPEN CIRC.>rR^ <D .FT SEMICIRC.>SbbW&DS <D .FTW&DS OPEN CIRC.>S",
   "_%CIRC.D ;E OV,LAYcqTOP SEMICIRC.>tRI<G.-HEADπOPEN CIRC.>boSE UPdD BOOKe*T,SECTI; %S,IFS",
   "yLOCK %KEYnMAILBOX %LOW,πFLAGmRAISπFLAGySUBSET_OR EQU+ TOqP,SET_OR EQU+ TOuUMBRELLAhNI; %S,IFS",
   "_<D SMASH PRODUCTbnUD_%L^N*GjRA*eSNOWeTORNADOpWN FACEjOATcCKROACHfTAIL GLASSl;UTfFF*e*cLLISI;ε",
   "n;_EQU+SgSIGNiMB*ΨACUTE ACCΔ_δmT;E M&Kk-GRAVE-ACUTElMACR;lLMOST EQU+ TO:fδuNNUITYε",
   "mTICLOCKWISE>:lRΨOV,LAYzST,ISK:fδoB*DU δkREVE_δg-MACR;kIDGE:fδmC<DRAB*DUjR;_δkEDILLA",
   "gIRCUMF.X ACCΔ_δwLOCKWISE>:lRΨOV,LAYvOMMA:_R^lδjNJO*ΨMACR;_δwYRILLIC DASIA PNEUMATA",
   "oHUNDRπMILLI;S~nξS~wKAVYKAgμAbBEbIG YUShCHEdDEbJ,VfEFbLbMbNbRbSa-TEfFITAeGHEdHAaRD~jIaE",
   "bOTIFIπAbBIG YUShEkKAcLITT. YUSkM;OGRAPH UKmOaMEGAfPEcSHAbCHAeOFT~jTEbSEdUaKRA*I< IEmVEcYATc,U",
   "dIbUcZEbHEkMILLI;S~nP+AT+IZATI;mY,OKgOKRYTIEhSILI PNEUMATAoTEN MILLI;S~qHOUS<D MILLI;S~vITLO",
   "_.FT H+FjR^ H+FqVZMEToDE.κlV<AG&I D#,OkμAbKAcNAcPAcRAcUbVIjSIGN AVAGRAHAxIA,ESIS_δg-R*GnOT:",
   "_.FTeR^lδ_.FTlTπACUTE ACCΔmGRAVE ACCΔrUB. ACUTE ACCΔmBREVE_δlCIRCUMF.X:qGRAVE ACCΔm*V,TπBREVE",
   "_δuLOW L*EiMACR;_δmOPEN M&K δoV,L*EiP&ΔHESES:qLUS~:fδpR^W&DS> δuNG δkTILDE_.FT H+FjR^ H+F",
   "qχL*E:fδkη OV,LAYyD CIRCUMF.X ACCΔxWN TACK δlW&DS>pENCLOSΨCIRC._BACKSLASHqDIAM;DhKEYCAPgSCREEN",
   "fQU&EgUPW&D PO*TΨTRI<G.bhQU+S~ δrF,MATAgOUR DOTS:pGLAGOLITIC μAZUdBIG YUSgUKYeCHRIVIgDJ,VI",
   "fOBROfFITAdRITUfGLAGOLIhH,UeIaNITI+ IZHElOTATπBIG YUShSM+L YUSqZHEeKAKOeLJUDIJEhMYSLITEhNASHI",
   "f;UdPOKOJIgRITSIfSHAbTAdLOVOeM+L YUSjTSIcVRIDOgUKUdVEDEeYATId,IbUcSTUeObUcZEMLJAfHIVETE",
   "yR<THA DIGIT FIVEdOURe;EdSIXdTHREEeWOdZ,OkμAbKAcNAcPAcVIoPHEME JO*,mVE ACCΔ_δmT;E M&K",
   "k-ACUTE-GRAVElMACR;kEEK DI+YTIKA T;OSpKOR;IShMUSIC+ PΔASEMEjTETRASEMEiRISEMEpP,ISPOMENIlYPOρ",
   "tHOMOTHETIC:oOK:iRNe*F*ITYgV,TπBREVE_δjIDGE δmΦ &CH:fδzS δiKATAK<A-HIRAG<A SEMI-VOICπSOUND M&K",
   "wVOICπSOUND M&KbhVYKA: .FTeR^sLAT* μSM+L CAPIT+ GbLbMbNbRwSM+L μA_%DIA,ESISpEbLPHAeObVcBaETAeC",
   "_CEDILLAjDbEaSHcTHdFaLATTENπOPEN A:wGbHbIaNSUL& DbGbRbTjKbL_%Φ ΛTILDEz;G SgMbNbO_%DIA,ESIS",
   "jL^ CΔR+IZATI; ηbiPbR_δfROTUNDAjSaCHWAfTaURNπW δoU_%DIA,ESISjL^ CΔR+IZATI; ηbiVbW_δhXbZ",
   "tEFT <G.:fδkRROW:fδgHEAD:fδpH+F R*G:fδnRPO;:nP&ΔHESIS: .FTkδ .FTwR^>:fδrTACK δlW&DS> OV,LAY",
   "nH&PO; %B&B DOWNW&DSbkIGATURE .FT H+F_δpR^ H+F_δwHT CΔR+IZATI; η δbg;G Φ SOLIDUS OV,LAY",
   "wSOLIDUS OV,LAYoTROKE OV,LAYoχL*E OV,LAYyW L*EiMACR;_δf.FT H+F_δpR^ H+F_δr-ACUTEfBREVEfGRAVE",
   "l*US~ δqNOT TILDE:oUMB,~:rOG;EKa:lLD P,MIC μ<cDOIdNENOEfSIIdZATAvPEN M&K δoV,L*EiP+AT+IZπΞ δ",
   "uRΔHESES:fδfOV,LAYsLUS~:fδpRETROF.X Ξ δsV,SE SOLIDUS OV,LAYqD COMMA:t^>:fδgHEAD:",
   "eND DOWN>HEAD δuUP>HEAD δwδpH+F R*G:fδnRPO;:nP&ΔHESIS: R^lδ R^xTACK δlW&DS H&PO; %B&B DOWNW&DS",
   "bkNG:fδfOV,LAYmSEAGULL δmHORT SOLIDUS OV,LAYoTROKE OV,LAYoχL*E OV,LAYbaNAKE δkQU&E δeRACKETS:",
   "uTR;G CΔR+IZATI; η δbhUSPENSI; M&KpTHREE DOTS:pILDE_δf.FT H+F δpOV,LAYhR^ H+F δ",
   "vRIP. ACUTE ACCΔmDOTdUND,DOToURNπCOMMA:sUP TACK:fδlW&DS> δsR:hS:iχL*E:fδkTILDEoWIDE BRIDGE:",
   "m*V,TπBRIDGE δyGGLY L*E δrX:fδg-X δjZIGZAG:fδtETcMAb,CI+ ATcM*US~sPASSd.MΔgOSITI;εoRESSI;",
   "jNFETTI B+LjOUNDπFACElUSπFACEkGRUΔ %DOT:vIC+ TAP,kJUNCTI;iSTRUCTI;~eWORK,qTA*S AS MEMB,",
   "gNORM+ SUBGROUP_OR EQU+ TObe%L;G υ ηwOV,B&hχB& AT END OF υ ηby*UOUS UND,L*EεxOUR *TEGR+",
   "mROL KNOBSfSEQUENCE *TRODUC,yVENIENCE STOREpOKπRICEhIEbNGfPTIC CAPIT+ μAKHMIMIC KHEImLFA",
   "eBOHAIRIC KHEInCROSSπSHEIkYPTOGRAMMIC EIEdG<GIAgNIcSHEIsD+DAeEIcI+ECT-P +EFeHORIeKAPAeNImEIE",
   "dFEIcIcGAMMAdNGIAgHATEdORIeIAUDAfKAPAdHEIcIcSIdL-SHAPπHAkAULAfMIcNIcOaLD COPTIC A*dDJAdESH",
   "dG<GIAgHAaTcEIcORIeOOUdSHEIcIMAmNUBI< NGIcYIdSHIMAfWAUnOUdPIbSIdROcSAMPIeHEIcIMAeIMAdOUdTAU",
   "cHETHEgUAcVIDAeZATAsOMB*ΨNI:iSPIRITUS ASP,f.NISyEPACT DIGIT E^fFIVEdOUReN*Ee;EdSEVENeIXdTHREE",
   "eWOjNUMB, E^ φiYgFIFTYdVE φlORTYdUR φmN*E φiTYg;E φlSEVEN φiTYgIX φiTYfTENcHIRTYeREE φmWΔYeO φ",
   "sξS M&KuFRACTI; ;E H+FqULL STOPjMORPHOLOGIC+ DIVID,vOLD NUBI< DIRECT QUESκuFULL STOP",
   "j*DIRECT QUESκwV,SE DIVID,ySM+L μAKHMIMIC KHEImLFAeBOHAIRIC KHEInCROSSπSHEIkYPTOGRAMMIC EIE",
   "dG<GIAgNIcSHEIsD+DAeEIcI+ECT-P +EFeHORIeKAPAeNImEIEdFEIcIcGAMMAdNGIAgHATEdORIeIAUDAfKAPAdHEIcI",
   "cSIdL-SHAPπHAkAULAfMIcNIcOaLD COPTIC A*dDJAdESHdG<GIAgHAaTcEIcORIeOOUdSHEIcIMAmNUBI< NGIcYI",
   "dSHIMAfWAUnOUdPIbSIdROcSAMPIeHEIcIMAeIMAdOUdTAUcHETHEgUAcVIDAeZATAqYMBOL KAIcHI ROgMI ROfPI RO",
   "fSHIMA SIMAjTAUROShTAU ROrY.FTεlR^~mR+cNISH V,SE DIVID,sRESP;DS TOmUCH <D LAMPlNT,BOREeS*K",
   "gΨROD TENS DIGIT E^fFIVEdOUReN*Ee;EdSEVENeIXdTHREEeWOoUNIT DIGIT E^fFIVEdOUReN*Ee;EdSEVENeIX",
   "dTHREEeWOyP. %HE&TpW_FACEhRaABcEDIT C&DiSCΔ MO;lICKET_BAT <D B+LsOCODI.gISS<TgSS M&K",
   "eOF J,US+EMjLORRA*ElPATTY %.FT CROSSB&nR^ CROSSB&yOMMEE_%H+F-CIRC. δbeπFLAGS",
   "fNEGATIVE SQU&πLAT* CAPIT+ μPbnSWORDSjΨL<ESlWNdUTCHdZEIRO~lYΨCAT FACEiFACEiST+ B+LlSIcUBE ROOT",
   "hCUMB,gNEIFORM NUM,IC~ E^ ASHdDISHeGESH2fSH&2fU_V&I<T$oV&I<T$ USSUa3xLAMITE FIFTYeORTY",
   "f;E THIRDjTWO THIRDSsFIVE ASH_TENUiB<2_V&I<T$qURUeDISHeGESH2bUfSH&2bUeIXTHS DISHlU_V&I<T$",
   "sOUR ASH_TENUiB<2_V&I<T$qURUeDISHeGESH2bUfSH&2bUfU_V&I<T$oV&I<T$ LIMMU_AbBc4yNIGIDAESHdM*",
   "hNE ASHdDISHeGESH2fSH&2fU_V&I<T$oV&I<T$ ILIMMU_Ac3b4zOLD ASSYRI< ;E QU&T,hSIXTHvNE B<2dURU",
   "eE^H ASHjSHE3fGESH2bUfH+F GURiQU&T, ASHdGURlSH&UfTHIRD DISHeV&I<T$ AySEVEN ASHdDISHeGESH2fSH&2",
   "fU_V&I<T$oV&I<T$ IM* AbBc3xH&2 ωG+ PLUS DISHeM*xIX ASH_TENUiDISHeGESH2fSH&2fU_V&I<T$",
   "oV&I<T$ ASH9vTHREE ASH_TENUiB<2dURU_V&I<T$rDISHeGESH2bUfSH&2_V&I<T$oU_V&I<T$sV&I<T$ ESH16c21",
   "xWO ASH_TENUiB<2dURUeESHE3fGESH2bUfSH&2bUfTHIRDS DISHeV&I<T$ AbmPUNCTUATI;~ DIAG;+ COL;",
   "fQUADCOL;jTRICOL;rOLD ASSYRI< WORD DIVID,zχCOL;bfSIGN A_ωAbBADdG<2 TENUjHAcIGIdLAG& GUNUkMUSH",
   "eSAGk2bB_GUNUeωASH2eDUN3 GUNUjG+bN2 TENUjHAcIGI GUNUhM*eLAGABfNUN_TENUiSHESHdU2",
   "eU PLUS U PLUS Uw2_ωAbB+AGfG<2 TENUjME PLUS ENkSHA3eTAK4nD_ωESH2mK_ω,*2fSHITA PLUS GISHxL_ω+",
   "cDIM2eGISHeHAcKAD3dIcSHEdUSHk<cEPHeM&_ωKUGdSHEnN_OV, <hPLUS NAGA OPPOSΨ< PLUS NAGAvSQU&ED",
   "rTHREE TIMESmSHEeP*dRAD_ωKURmKABeS+2dH_KABA TENUjOV, ASH OV, ASH_CROSSΨASH OV, ASH OV, ASH",
   "bnTUG2 OV, TUG2 TUG2 OV, TUG2 PAPbqZIDA TENUk2bGABgBAaD_ωDISH TENUrG3cH&2_ωAB2dNIcZAnL_OV, B+",
   "jAGdRaA2eI_ωAbG&dIGI GUNUqU_CROSSΨBUlOV, BU ABcωNA2jUNlLUG_OV, BULUGoRa2eDA_ωTAK4lG",
   "_KISIM5 ωA PLUS MASHkM&eB+AGeIcGA_PLUS MASHlIaR2dUDdHAcIR_PLUS LUkKAKdLAbU_PLUS MASH2lMdNE",
   "cPAP PLUS PAPmSIcTAK4eU2 PLUS GIR2eMASHlSHqωKURk3cMbRaA3b4eIaBbM_ωIGIdSHEdU U Um2_ωUDlN",
   "_KASK+ U GUNU DISHuSH_PLUS SHUmU_GUNUeOV, DUhSHESHIGiB_ωESH2eSHEk2cG_ω<SHEeSH_AT .FTlD*cUNd,*2",
   "fGAbIaR2 GUNUhSHeHAbIcIGI GUNUiKASK+fURbSHU2_PLUS KASK+sLAK-020fM_ωKURmUH PLUS GISHnMASHdEScI",
   "cNIcPIcSHEcI GUNUoUDdHbNa3_GUNU_GUNUl4cR2eE_OV, E NUN OV, NUNtωPAPk2_ωA PLUS HA PLUS DArG&dKUR",
   "dMIcPAPdS+cHEdUjD*dGIRdLbN_CROSSΨENlOPPOSΨENlSQU&EDhωG<2_TENUjMEkRENc*2_XgSH2_CROSSΨESH2rZEN",
   "_SHESHIG ωASHdHIcIGI GUNUiLAaLdMEaSdSUqωA_PLUS L+_ωL+tNcBADdDUN3 GUNU_GUNUoGUDdHA_GUNU",
   "hIGI GUNUiKASK+_SQU&EDnU3dLAaL ωL+mIbUcSHEcUcU2bDnGA_GUNUf2_OV, GA2iωA PLUS DA PLUS HAkHAcIGI",
   "jB2 TENU PLUS TABqN_PLUS KAK PLUS ArSHa2_PLUS G+nBADbH&2eR PLUS RAkUR_PLUS RAlDAbIaM GUNUeωSHE",
   "mUBbG ωIGI GUNUiKASK+qEL_PLUS LAjN_ωG<2 TENUrRENeGAaN2 TENUhR_PLUS DIcNEkIa4_PLUS AiR2 PLUS SU",
   "mHA PLUS AbLU PLUS ESH2sL_PLUS LAkI PLUS LIjUB2eIGI GUNUhSH PLUS HU PLUS ASHuKAKbSK+fID",
   "_PLUS L+lU3 PLUS <jSHU2 PLUS KASK+sLAaM_ωKURmUHdME PLUS ENjIbUSHeNE_PLUS E2cGIjUN_OV, NUNmPA",
   "cS+bRcHE_PLUS TURkIDbMdUMdTAK4eUaD_PLUS DUkZIZ2mBA_CROSSΨGABAnROTATπN*ETY DEGREESzD",
   "_OV, GAD G& OV, G&xL_GAD OV, GAD G& OV, G&baAMdMbNa2_CROSSΨG<2nOV, G<2jTENUhRa3cSH<fE22cSHT*",
   "_ωKURdUoI_CROSSΨGIlωEbUi4_CROSSΨGI4mOV, GI4kDIMdGbR2_GUNUg3_ωA PLUS IGIkG<2 TENUjIGI",
   "dLU PLUS IGIlPAlS+cH_CROSSΨGISHnTENUdIMES BADdGISH CROSSΨGISHsTAK4oU_CROSSΨGUm2_GUNUeωIGI GUNU",
   "iKAK_ωIGI GUNUsNUNdS+ PLUS TUG2vD_OV, GUD LUG+oPLUS GISH ωTAK4uωA PLUS KURkKURlLbM_ωSHElRa7bUN",
   "bSHgHA_GUNUeTENU_GUNUkLcI_ωASH_OV, HI ωASHs2eBADdDISHeGADdK*dNUNdSHEdUjUaB2_ω<cH+dKASK+gLISH",
   "eUDlL2cSHeI_AcBbDIM_OV, IDIM BURdSQU&EDvGaI_DIBdGUNUeOV, IGI SHIR OV, SHIR UD OV, UDbiRIfL",
   "_ωG<2 TENUq2cM_CROSSΨIMlOPPOSΨIMlSQU&EDhωTAK4l*dNbRbSHdKA_ωAaD_PLUS KU3kNSHEeSH2b3eBADbLAGdRcI",
   "bUc,*2eSH2eGAaLbN2 TENUhR_PLUS SHA3 PLUS AtIaR2cSH_CROSSΨGISHnPLUS S&mUaDbR7eHI ωASH2nIGIcMcKA",
   "aKcIaDdLIbUaMdME_PLUS DUcGIcTEjI_PLUS NUNUZnNEbUNdPAbIcRUcSAaRcHAbEbIDcUaLdIGcUHURfT&cUcU_U U",
   "e2bDbMUM ωPAmRa2cSHdZIj2_CROSSΨKA2oBbD2b3b4b5_OV, KAD5mK_ωIGI GUNUqL_CROSSΨK+mωBADlM2b4",
   "cP ELAMITEjSK+_LAGAB ωU OV, LAGAB ωUbgOV, KASK+ LAGAB ωU OV, LAGAB ωUbyESH2eI_ωBADdUaDjDbNbS+",
   "cHbIM5_OV, KISIM5rU_OV, HI ωASH2 KU OV, HI ωASH2bp3b4_V&I<T$o7bL_GUNUgNbR_OPPOSΨKURoSHU2fWU318",
   "gLAaGAB_SQU&EDhωA_PLUS DA PLUS HAkG&dL+jLbNbSH ZIDA TENUnBADcIcD&dENcGAaRcIbUD_PLUS GUDmHAaL",
   "cI ωNUNmIGI GUNUhM_PLUS HAcLUkKIaNcU3bL_PLUS HI PLUS AsLAGABeISHdUaLdME_PLUS ENjUSHeNE",
   "cSHE PLUS SUMkITA PLUS GISH PLUS ,*2kTENUsU2_PLUS SHU2nUMdTAGbK4dE PLUS A PLUS SU PLUS NAzU",
   "_PLUS AbU PLUS Uo2 PLUS ASHkDbSHdZU OV, ZUsR_GUNU_OV, LAG& GUNU SHEyωSHE_PLUS SUMwHSHUeK-003",
   "c21b5c30c50b1c62c79 OV, LAK-079 GUNUu80b1 OV, LAK-081p92d130c42d210b9c20b5b8c38c65b6d343b7b8",
   "c83b4c90d441b9_ωGUcIGIdPAP PLUS LU3dPAP PLUS LU3vU2 PLUS BAt50b7c70c83c90b2b3b5d550d608c17",
   "_ωASHdBADdDUN3 GUNU GUNUoKU3dLAcT&cEcU2bDbRUDAo36c48_ωDUBdGAcIGI_GUNUiNIcPAP PLUS PAP PLUS LU3",
   "vSHESH PLUS KInUDbRUDAp724c49fL_ωL+lM_ωKUR_PLUS RUuIaLbMMU2eSHdU_ωBADk2_CROSSΨLU2mGUNU ωASH",
   "oOPPOSΨLU2mSHESHIG_ωBADqQU&EDhTENUdIMES +cBADdDISHeESH2_PLUS L+iTENUjG<2 TENUjH+cI ωBADmIM",
   "cKAD2b3_PLUS ASHmIcLA PLUS ASHjGABfME PLUS ENkNEbUcPAP_PLUS PAP PLUS LU3vSHUcI PLUS ASH",
   "jK2 PLUS BUmTAK4dUG2m3bG+_OPPOSΨLUG+nV, LUG+kSHESHIGlHbLbM_OV, LUM_G& OV, G&zMA_GUNUeωTAK4l2bH",
   "bRbSHa2eEaSaHdI_PLUS ZA7jNcU_OV, MUiG_GUNUgNSUBeRGU2eSH_CROSSΨMUSHnOV, MUSH_ωA PLUS NAjGAcKAK",
   "tωAbKURdZAj3_GUNUeωA_PLUS DIjDIcZAoNAa2b4bGA_*V,TEDiOPPOSΨNAGAnωSHU TENUpRdM_NUTILLUi2dE",
   "_SHESHIGhωAbUDkI_ωEi2bM_ωG<2 TENUhR PLUS G<2 TENUbaNa9bDA2_ω<bSH_PLUS ASHmB+dDIM GUNUiGIaSHdUD",
   "bLdHIcKESH2fLAK-050hMASHdE PLUS G<2 TENUrNEbUNdPAP PLUS PAPmSHE_PLUS A <dSH_PLUS ASHvU_PLUS U",
   "h2 PLUS ASHkRUDAeSHoSAGeUa11_OV, NU11 BUR OV, BURwROTATπN*ETY DEGREESwTENUhN_CROSSΨNUN",
   "_LAG& OV, LAG&bdLAG& ωG&dMASHeS+_OV, NUN LAG& ωS+bcUSHpOV, NUNiTENUfUZ_AB2 ωASHGABgBIcDUGdGUD",
   "dIGI GUNUiKAD3eLAcNEcSILA3fU2mKISIM5 ωBI_UxPAaDbNbPcESH2_AST,ISKnI_CROSSΨPIlωAaBcBIbUcEbIaBcU",
   "a2jR2bIG_OPPOSΨPIRIGoωK+dUDcZAoRAaBcIbUcSAaG_GUNU_ωHAnNUTILLUhOV, SAGiωAbDUaBdENcHAcIGI GUNU",
   "iKAKcURdLUMdMIcNUNdS+cHE AT .FTjIDeTABbK4eU2bBbMbRbSHlL_LAGAB ωASH2sNGA2eRcHAa3_ωAbBADdGISHeNE",
   "cSHU2eTURdU_PLUS Aq6_TENUgB6cR2dE_HUcOV, SHE_GAD OV, GAD G& OV, G&zTAB OV, TAB G& OV, G&",
   "biPLUS HUB2eNAM2eS&jG9cNbSHa2bLAMgID_ωAbIMkM_ωAbB+cULUGfD*dG&dIGI_GUNUiKUSHU2gLULdMUGdS+lNIGdR",
   "_OV, SHIR BUR OV, BURwTENUgTAdU_OV, *V,TπSHUs2_PLUS DUG ωNImE2 ω<sBURfI_GUNUeωTAK4lGa4",
   "_OV, SIG4 SHU2rK2cLA3eU_OV, SUiDa2cHURdMaASHeRa9eTA_AST,ISKiGUNUeωHIcMIjB",
   "_OV, TAB NI OV, NI DISH OV, DISHbiSQU&EDjG_ωBIcGUDdSHEbUdTUG2eUDkK4_PLUS SAGlRcE_GUNUgI_TENUf2",
   "bLbR_OV, TIR_GAD OV, GAD G& OV, G&biωTAK4nUaG2cKbM_ωG<2 TENUjTHREE DISHsR_OV, TUR ZA OV, ZAxU",
   "_GUDdOV, U PA OV, PA G& OV, G&xSUR OV, SURmU REV,SπOV, U REV,SEDbhU_Ue2bBbD_GUNUeKUSHU2",
   "gSHESHIG_ωBADrωBADdMIcU PLUS U PLUS U_GUNUbbUGdM_ωLAGABfME_PLUS DAkSHA3eUiB*dUM_ωKASK+gPAmN",
   "_GUNUgR_CROSSΨURlSHESHIGi2_*V,TEDiωA PLUS HAcNAiLcHAcNUNdU2_PLUS ASHdBIjDk4bIa3cU_ωAaSHGABgB&",
   "dD&A3eUNdGAaLbN2 TENUhRcUcHAcIGIcMbSHdKIcLAK-668gU3bMdM*dPAcSHEcIG4eTUcU PLUS GUDjDbRUDAmDA_ωU",
   "mSH_ωAbKUaRdTAK4l2bUMXdXdTUKIeZ3_ωKASK+oUdZA_SQU&πωKURrTENUf7bGbMXdE2cI_OV, ZIi3bB_KABA TENUlG",
   "bZ2dU_OV, ZU PLUS S&r5_ωAbTHREE DISH TENUxBURdMqP ; BLACK SQU&Ep%STRAWlCAKEeIDOeRLΨST;E",
   "jYθ EXTENSI;rLOGIC+ <DdORiOPhRENCY EXCH<GEiSIGNjY <D RICElVπSTEM P&AGRAPH~ ORNAMΔbhST&DdOMS",
   "fT OF MEATkYCL;EfL*DRICITYkPRIOT SYLLAB. AbEbIbJAbOcKψcLψcMψcNψcObPψcRψcSψcTψcUbWAbEbIbOcXAbE",
   "cZAbOpO-M*O<~ CM001b2b4b5b6b7b8b9c10b1b2aBc3b5b7b9c21b3b4b5b6b7b8b9c30b3b4b5b6b7b8b9c40b1b4b6",
   "b7b9c50bζb6b8b9c60b1b2b3b4b6b7b8b9c70bζaBc6b8b9c8!c90b1b2b4b5b6b7b8b9d100bζb7b8b9c10b2b4d301b2",
   "vRILLIC CAPIT+ μA_%BREVEfDIA,ESISpBKHASI< CHE_%DESCEND,sDZEdHAl.UT KAiB&RπO_%DIA,ESISvSHKIR KA",
   "jEbIG YUSfNOCUL& Ok.NDπYUSkROAD OMEGAkYELORUSSI<-UKRA*I< IyCCHEdHE_%DESCEND,iIA,ESISjχη",
   "xLOSπLITT. YUSqROSSπOjDCHEdEbJEaRVeOUB. M;OCUL& OlOhWEcZEaLOdHEcWEcZEbHEfE_%DIA,ESISpFbL",
   "_%DESCEND,jΞeΛΞlTAILlM_%TAILlN_%DESCEND,jΞe.FT ΞjΛΞlTAILlR_%TICKlS_%DESCEND,rFITAeGHE",
   "_%DESCEND,jΛΞlη_<D ΞpUPTURNoJEdHA_%DESCEND,jΞeηmRD~iWEdI_%DIA,ESISjGRAVEfMACR;mE_%BREVEfGRAVE",
   "mOaTAbIFIπAbBIG YUShCLOSπLITT. YUSrEbLITT. YUSkYATlZHITSA_%Φ GRAVE ACCΔbgJEcKA_%DESCEND,jΞeη",
   "gχηwHAKASSI< CHEnJEcOMI DEbJEcZJEeLJEdNJEdSJEdTJEdZJEgPPAeSIdLHAcITT. YUSjJEdM;OCUL& O",
   "hGRAPH UKmNEUTR+ Y,kJEdO_%DIA,ESISpMEGA_%TITLOpTcPE_%DESCEND,jΛΞsSIdQAcREV,SπDZEdTSEdYUcZEkHA",
   "cOUND OMEGAlSCHWA_%DIA,ESIStEMISOFT~mHAbCHAdHA_%DESCEND,rORT I_%TAILlUfWEdOFT DEcELbMcSIGN",
   "iTRA^ U_%ηwTCHEdE_%DESCEND,jΛΞsSEbHEcSEcWEdWEdU_%DIA,ESISiOUB. ACUTEmMACR;mKaRA*I< IEmVEcWEcYA",
   "aEbTc,U_%BACK Y,iDIA,ESISsIbNbUcZE_%DESCEND,iIA,ESISpMLYAfHE_%BREVEfDESCEND,iIA,ESISqWE",
   "kIGATURE A IEeEN GHEgTE TSExKAVYKAgμMULTIOCUL& OnP+OCHKAiSM+L CAPIT+ ELxPAY,OKhSM+L μA_%BREVE",
   "fDIA,ESISpBKHASI< CHE_%DESCEND,sDZEdHAl.UT KAiB&RπO_%DIA,ESISvSHKIR KAjEbIG YUSfNOCUL& O",
   "k.NDπYUSkROAD OMEGAkYELORUSSI<-UKRA*I< IyCCHEdHE_%DESCEND,iIA,ESISjχηxLOSπLITT. YUSqROSSπO",
   "jDCHEdEbJEaRVeOUB. M;OCUL& OlOhWEcZEaLOdHEcWEcZEbHEfE_%DIA,ESISpFbL_%DESCEND,jΞeΛΞlTAILlM",
   "_%TAILlN_%DESCEND,jΞe.FT ΞjΛΞlTAILlR_%TICKlS_%DESCEND,rFITAeGHE_%DESCEND,jΛΞlη_<D ΞpUPTURNoJE",
   "dHA_%DESCEND,jΞeηmRD~iWEdI_%DIA,ESISjGRAVEfMACR;mE_%BREVEfGRAVEmOaTAbIFIπAbBIG YUS",
   "hCLOSπLITT. YUSrEbLITT. YUSkYATlZHITSA_%Φ GRAVE ACCΔbgJEcKA_%DESCEND,jΞeηgχηwHAKASSI< CHEnJE",
   "cOMI DEbJEcZJEeLJEdNJEdSJEdTJEdZJEgPPAeSIdLHAcITT. YUSjJEc;G-.GGπDEoM;OCUL& OhGRAPH UKmN&ROW O",
   "hEUTR+ Y,kJEdO_%DIA,ESISpMEGA_%TITLOpTcP+OCHKAhE_%DESCEND,jΛΞsSIdQAcREV,SπDZEdTSEdYUcZEkHA",
   "cOUND OMEGAgπVEkSCHWA_%DIA,ESIStEMISOFT~mHAbCHAdHA_%DESCEND,rORT I_%TAILlUfWEdOFT DEcELbMcSIGN",
   "iTRA^ U_%ηwT+L H&D~jTEcYAThCHEdE_%DESCEND,jΛΞsHREE-.GGπTEoSEbHEcSEcWEdWEdU_%DIA,ESIS",
   "iOUB. ACUTEmMACR;mKaRA*I< IElNB.NDπUKmVEcWEbIDE EShYAaEbTc,U_%BACK Y,iDIA,ESISsIbNbUcZE",
   "_%DESCEND,iIA,ESISpMLYAfHE_%BREVEfDESCEND,iIA,ESISqWEkIGATURE A IEeEN GHEgTE TSEvξS~xDAGG,",
   "_KNIFEf%.FT GU&DkR^ GU&Dv.TεkNC,dGOdRK SHADEeUNGLASSESnSHεg%.FT UPTURNrπLOW L*EiOV,L*E",
   "iTRI<G.-HEADπR^W&DS>blTA L*K ESCAPEpC1b2b3b4bScEAF P,S;jCIDUOUS TREEkM+ EXP;ΔεpSEP&ATOR KEYε",
   "zREASE F;T SIZEεx,cGREE CELSIUShFAHRENHEITkSIGNjLaETEdIV,Y TRUCKlTA EQU+ TO",
   "mNTISTRYε L^ DOWN <D υ_%CIRC.gTRI<G.iWAVEbdUP <D υ_%CIRC.gTRI<G.iWAVEbbχ<D BOTTOM .FTeR^",
   "mTOP .FTeR^jWAVEi%CIRC.gTRI<G.brP&TMΔ STOREoRELICT HOUSE BUILD*GvSCENDΨNODEm,ET CAPIT+ μAYcBEE",
   "dCHEEeDEEdEFbLbMbNaGcRbSaHcTHcWcGAYdHbJEEdKAYdL;G AaHcEbIbOaOhOIbWcPEEdSHORT AaHcEbIbOaOiTEE",
   "cHEEeVEEdWUcYEEdZEEcHEEtSM+L μAYcBEEdCHEEeDEEdEFbLbMbNaGcRbSaHcTHcWcGAYdHbJEEdKAYdL;G AaHcEbI",
   "bOaOhOIbWcPEEdSHORT AaHcEbIbOaOiTEEcHEEeVEEdWUcYEEdZEEcHEEuT_ISL<DkKTOP COMPUT,iW*DOW",
   "mV<AG&I ABBREVIATI;~qCUTE ACCΔmC&ETfD<DAe#,OjOUB. D<DAmGAP FILL,jRAVE ACCΔmHEADηkJA* OMhμAaAbI",
   "bUbWbYcBAbBAcHAdCAaNDRA AbEbOhHAdDAbDAbD|dHAdHAdEbFAcGAbGAcH|dLOTT+ STOPmHAbEAVY YAiIaIcJ|cJA",
   "dK|bHAeLAbLAbLAeMAaRW&I DDAlNAbGAcNAbNAdYAdOaEbOEdP|dQAcR|cRAdS|bORT AbEbOgSAdT|cT|eUaEbUaEdVA",
   "bOC+IC LaLcRaRkYAbYAdZ|kOMcSIGN <USV&AhVAGRAHAiC<DRAB*DU_AVAGRAHAiTHREEeWOdVIRAMA",
   "sΦ C<DRAB*DU VIRAMAzHIGH SPACΨDOTq*V,TπC<DRAB*DUuNUKTAfPUSHPIKAiSIDDHAMgPACΨC<DRAB*DUtVIRAMA",
   "eS&GAlTRESS~ <UDATTAiUDATTAsVOWEL~ AAbIbUbWbYcC<DRA EbL;G EgOiEbIaIcOaEbOEdPRISHTHAMATRA E",
   "pSHORT EbOhUaEbUaEdVOC+IC LaLcRaRbdICE C;TROL FOURe;EdSTR*GgTHREEeWOrIA,ESISgMET,~j;D OP,ATOR",
   "iSHAPE %A DOT *SIDExT&GETg%BOTTOM H+F BLACKr.FT H+F BLACKpR^ H+F BLACKqTOP H+F BLACKzE FACE-ζ",
   "b6hSEL LOCOMOTIVEpFF,ENCE BETWEENqGIT E^_COMMAfFULL STOPpFIVE_COMMAfFULL STOPnOUR_COMMA",
   "fFULL STOPoN*E_COMMAfFULL STOPo;E_COMMAfFULL STOPnSEVEN_COMMAfFULL STOPoIX_COMMAfFULL STOP",
   "nTHREE_COMMAfFULL STOPoWO_COMMAfFULL STOPnZ,O_COMMAfFULL STOPrRAM FOR E&THaLY HEAVENfUM<",
   "nGREAT, Y<Gd*lHEAVENLY E&THnUM< E&THl.SS, Y<Gd*tMENSI; ORIG*oNGBAT CIRC.D S<S-S,IF D#,O",
   "kNUMB, TENbdNEGATIVE CIRC.D DIGIT E^fFIVEdOUReN*Ee;EdSEVENeIXdTHREEeWOjNUMB, TENkS<S-S,IF D#,O",
   "kNUMB, TENbsRECT CURRΔε$ TWOxHITiSAB.D C&iPPO*TπBUT RELIEVπFACErFACEoC;T*UOUS UND,L*Eε",
   "bbGUISπFACEmTTO M&KiVES AKURU D#,OjOUB. D<DAmEND OF TEXT M&KqGAP FILL,k*ITI+ RAkμAaAcB|dC|dDA",
   "bD|dHAdEbG|dHAcIaIcJAcK|dLAbLAdMAcNAbGAcNAcYAdObP|dRAcS|cSAdT|cTAdUaUcVAcYAbYAdZAjMEDI+ RAcYA",
   "jPREFIXπNAS+~tSIGN <USV&AiC<DRAB*DUlH+<TAhNUKTAkVIRAMAfOWEL~ AAbIcEbIaIcObUaUwIDESdNG MASK",
   "hSI;~dLASHfTIMESlORCEεmYA LAMPhZZY FACEeSYMBOLl.cNA Φ HELIXpO NOT LITT,εsCUMΔ_%PICTUREhTEXT",
   "_<D PICTUREbcDOcES NOT C;TA* AS MEMB,gNORM+ SUBGROUP_OR EQU+bjDIVIDE_%REV,SπNEGATI; SLASH",
   "bjFORCEfPRECEDE_OR EQU+oOVEfSUCCEED_OR EQU+xG_FACEfRA ABBREVIATI;~rμAaAbIbUcB|dC|dDAbD|dHAdE",
   "bG|dHAcIaIcJ|dK|dLAcMAcNAbGAcNAcYAdObP|dRAbRAdS|cSAdT|cT|eUaUcVAcYAjSIGN <USV&AiNUKTAfVIRAMA",
   "eS&GAmVOWEL~ AAbIbUcEbIaIcObUaUcVOC+IC RaRzLL&~iPH*fM*O TI. υ BACKf-00-00bζb6e1-00bζb6e2-00bζ",
   "b6e3-00bζb6e4-00bζb6e5-00bζb6e6-00bζb6qχBACKf-00-00bζb6e1-00bζb6e2-00bζb6e3-00bζb6e4-00bζb6",
   "e5-00bζb6e6-00bζb6yNG~hORcT:fM*USfOP,ATORiPLUSfTπCIRC.fROSSfFENCEfL*E FACEjOBELOSgR^-PO*TΨ<G.",
   "uSOLIDUSgQU&EgTR<SPOSIκ,zUB. ACUTE ACCΔmCIRC.D DIGIT E^fFIVEdOUReN*Ee;EdSEVENeIXdTHREEeWO",
   "jNUMB, TENrOL; EQU+kURLY LOOPkDAGG,fOWN TACKjEXCLAMAκqHIGH-REV,SED-9 QUOTAκbdYPHENg*TEGR+",
   "eRSECTI;m.FT &C GREAT,-TH<θbcOGIC+ <DdORiW L*Ef-9 QUOTAκqREV,SED-9 QUOTAκbdNESTπGREAT,-TH<",
   "m.SS-TH<_%UND,B&beOBLIQUE HYPHENoPLUSdRECEDESgIME_QUOTAκuQUESκnR^ &C .SS-TH<θbbSOLIDUS OP,ATOR",
   "pQU&E *T,SECTI;mUNI;lTACKπCOMMAlROKE NOT~oUBSETeCCEEDSgP,SETgSPENSI; M&KpUNI;eP TACKhχB&",
   "_Φ .FT TURNSTI.oR^ TURNSTI.w.FT TURNSTI.sL*EnWAVY OV,L*Eo-ENDπMULTIMAP",
   "oL*E EQU+ TO OR GREAT,-TH<m.SS-TH<vSL<TπEQU+ TO OR GREAT,-TH<m.SS-TH<vGREAT,-TH< OR EQU+ TO",
   "y.SS-TH< OR EQU+ TObiSTRUCK CAPIT+ CbGAMMAfHbNbPaIcQbRbZjIT+IC CAPIT+ DjSM+L DbEbIbJ",
   "oN-&Y SUMMATI;pSM+L GAMMAfPIqD FEM+E~lM+E~jSYMBOLlGHNUTgVE OF PEACElWN>HEADjFISH TAIL",
   "jR^ DIAG;+ ELLIPSISxTACK_%CIRC. δx-PO*TΨRπTRI<G.mSM+L RπTRI<G.sTRI<G. %.FT H+F BLACK",
   "pR^ H+F BLACKboW&D FACΨΞ_%DOTnNOTCHπΞ_%DOTbdS <CORAfRROW_<D R^ ;E E^H BLOCKbaFROM B&",
   "i.FTW&DS OF UPW&DS>baTO B&g%CORN, .FTW&DSqΦ ηnEQUILAT,+>HEADvυ ηrL&GE TRI<G.>HEAD",
   "yMEDIUM TRI<G.>HEADzNOTCHπTAILmSM+L EQUILAT,+>HEADvTRI<G.>HEADyTIP .FTW&DSjR^W&DSzBLACK>",
   "fCIRC.D WHITE>zCOMPRESSED>qDASHED>lOUB.>mF*G,-POST>",
   "rH&PO; %B&B .FT BESIDE DOWNW&DS H&PO; %B&B R^bhUPW&DS H&PO; %B&B R^bmFROM B&iTO B&hW&DS",
   "jR^ FROM B&iTO B&hW&DSbbEAVY>fCOMPRESSED>wPAIRED>SnQUADRUP.>pROCKETgS<S-S,IF>pQU&ED>",
   "nTRI<G.>HEADk-HEADED>_.FTW&DS OF UPW&DS TRI<G.-HEADED>bqTO B&g%BOLD SHAFTkΦ υ ηyHEAVY SHAFT",
   "lL;G TIP .FTW&DSjR^W&DStMEDIUM SHAFTmN&ROW SHAFTmV,Y HEAVY SHAFTbbDASHED>mPAIRED>SnZIGZAG>zP.>",
   "lWO HEADED>n-HEADED> %TRI<G.>HEADSbpWHITE>_WITH* TRI<G.>HEADblZIGZAG>vRACHMA~jFTΨPO*T R^W&DS>",
   "bcG;_FACEjESSdIVE SLOW~nOMED&Y CAMELmOLΨFACEkP OF BLOODj.TfUM %DRUMSTICKStUCKcMPL*G",
   "gPLOY< AFFIX ATTACHπE ΞgI Ξg.FT-TO-R^ SEC<TuSEC<TgTAILcNGΔ_ΞvHIGH ACUTEfCIRC.gDOTdGRAVEfL*E",
   "d;G GRAVEkT^ ACUTElV,TIC+_SEC<TpWAVEj.FT υ SEC<TvOW ACUTEeRROWfCIRC.gDOTdGRAVEfL*Ed;G GRAVE",
   "kT^ ACUTElV,TIC+_SEC<TpWAVEiMID υ SEC<TrχSEC<TtR^ υ SEC<TbdΦ M&KlμAaOUdBbD_ScHcEaEbUcF_NdG_R S",
   "fHaLcIaEcJ_M_SdN_SdS_%DOTk%DOTaS *SIDE <D:bcK_MbR SeKcLaHb;G IbUgM_N_SdSb%DOTkN_M_SdSb%DOT",
   "jAS+ AbIbObUhOaAbOHcUbWcP_Nc,N* AMbNjR_ScHbOM<I< IbUkS_J_SdK_RdMbNbP_RdSbT_Rd%DOT_δpHORT I",
   "gLO< <cDHcEEbHbNcJb;bWcUhT_R SdScHcU_NcHbIcVaOC+IC MjW_RcAbEIcHbIbOaWdXaWcYE",
   "jPUNCTUATI; CH*OOK FULL STOPbdSIGN O %CROSSrTHICK μSE.CTORbdVDdE-MAILεmAG.dR_OF MAIZEfRICE",
   "h%HE&ΨAIDrTH_GLOBE AM,ICAShSIA-AUSTR+IAoEUROPE-AFRICAsROUNDkST SYRIAC CROSSqDITORI+ COR;ISqGG",
   "bYPTI< HI,OGLYPH A00ζaAc6aAbBc7b8b9c10b1b2b3b4aAc5b6b7aAc8b9c2!c30b1b2aAc3b4b5b6b7b8b9c40aAc1",
   "b2aAc3aAc4b5aAc6b7b8b9c5!c6!c70dA00ζb6b7aAbBc8b9c1!c2!c30b1b2fB00ζaAc6b7b8b9dEG* SEGMΔnC001b2",
   "aAbBbCc3b4b5b6b7b8b9c10aAcζb6b7b8b9c20b1b2b3b4eD00ζb6b7b8aAc9c1!c20bζb6b7aAc8b9c30b1aAc2b3b4aA",
   "c5b6b7b8b9c40bζb6aAc7b8aAc9c50aαbGbHbIc1b2aAc3b4aAc5b6b7b8b9c60bζb6b7aαbGbHfE00ζb6b7b8aAc9aA",
   "d10bζb6aAc7aAc8b9c20aAcζb6b7b8aAc9c30b1b2b3b4aAc6b7b8dND SEGMΔlF001aAc2b3b4b5b6b7b8b9c10b1b2b3",
   "aAc4b5b6b7b8b9c20b1aAc2b3b4b5b6b7b8b9c30b1aAc2b3b4b5b6b7aAc8aAc9c40bζaAc6aAc7aAc8b9c50b1aAbBbC",
   "c2b3eG00ζb6aAc7aAbBc8b9c10b1aAc2b3b4b5b6b7b8b9c20aAcζb6aAc7b8b9c30bζb6aAc7aAc8b9c40b1b2b3aAc4",
   "b5aAc6b7b8b9c50b1b2b3b4eH00ζb6aAc7b8dORIZ;T+ JO*,rI00ζaAc6b7b8b9aAd10aAc1aAc2b3b4b5",
   "dNS,T AT BOTTOM ENDdST&TmTOP ENDdST&TtK00ζb6b7b8eL001b2aAc3b4b5b6aAc7b8eM001aAbBc2b3aAc4b5b6b7",
   "b8b9c10aAc1b2aαbGbHc3b4b5aAc6aAc7aAc8b9c20b1b2aAc3b4aAc5b6b7b8aAc9c30b1aAc2b3aAbBc4b5b6b7b8b9",
   "c40aAc1b2b3b4eN00ζb6b7b8b9c10bζb6b7b8aAbBc9c20bζaAc6b7b8b9c30b1b2b3aAc4aAc5aAc6b7aAc8b9c40b1b2",
   "dL00ζaAc6b7b8b9c10bζb6b7aAc8b9c20eU00ζb6b7b8b9c10aAc1aAc2b3b4b5b6b7b8aAc9c20b1b2aAgO001aAc2b3",
   "b4b5aAc6aαc7b8b9c10aAbBbCcζb6b7b8b9aAd20aAc1b2b3b4aAc5aAc6b7b8b9aAd30aAc1b2b3aAc4b5b6aAbBbCbD",
   "c7b8b9c4!c50aAbBc1dV,LAY MIDD.oP001aAc2b3aAc4b5b6b7b8b9c10b1eQ00ζb6b7eR001b2aAc3aAbBc4b5b6b7b8",
   "b9c10aAcζb6aAc7b8b9c2!eS001b2aAc3b4b5b6aAc7b8b9c10b1b2b3b4aAbBc5b6b7aAc8b9c20bζb6aAbBc7b8b9c30",
   "bζaAc6b7b8b9c40bζb6eT001b2b3aAc4b5b6b7aAc8aAc9aAd10b1aAc2b3b4b5b6aAc7b8b9c2!c30b1b2aAc3aAc4b5",
   "b6eU00ζb6aAbBc7b8b9c1!c20b1b2b3aAc4b5b6b7b8b9aAd30b1b2aAc3b4b5b6b7b8b9c40b1b2eV001aαbGbHbIc2aA",
   "c3b4b5b6b7aAbBc8b9c10b1aAbBbCc2aAbBc3b4b5b6b7b8b9c20aαbGbHbIbJbKbLc1b2b3aAc4b5b6b7b8aAc9aAd30",
   "aAc1aAc2b3aAc4b5b6b7aAc8b9c40aAe,TIC+ JO*,pW001b2b3aAc4b5b6b7b8b9aAd10aAc1b2b3b4aAc5b6b7aAc8aA",
   "c9c20b1b2b3b4aAc5eX001b2b3b4aAbBc5b6aAc7b8aAfY001aAc2b3b4b5b6b7b8eZ001b2aAbBbCbDc3aAbBc4aAc5aA",
   "c6b7b8b9c10bζaαbGbHbIc6aαbGbHy^ PET+.D OUTL*πBLACK FLORETTEbfO*TπBLACK ST&kP*WHEEL ST&",
   "nRECTIL*E& BLACK ST&beSPOKπAST,ISKpTE&DROP-SPOKπPROPELL, AST,ISKbjH NOTEkJECTεlLBAS< μAbBEcCE",
   "bHEdDEbHEdEaIcFEcGEbHAMMAeEcJEdHEcIbJEcKEbHEd.b.dMEcNAbDEcEbJEdObPEcQEcREbREdSEbHEdTEbHEdUbVE",
   "cXEcYbZEbHEqECTRIC>fL^ BULBkPLUGeTORCHg+ *T,SECTI;uMΔ OF_OPENΨDOWNW&DSjUPW&DSp%DOT:jL;G υ η",
   "wOV,B&hTWO υ ηSwUND,B&iχB& AT END OF υ ηcbPH<TfVATORgFbYMAIC μ+EPHeY*eBETHeD+ETHgGIMELfHEaTH",
   "eKAPHeLAMEDHgMEMdNUNdPEcQOPHeRESHeSADHEdMEKHfH*eTAWcETHeWAWdYODHeZAY*lIGATURE ZAY*-YODH",
   "baM DASHeQUADeSPACEgOJI COMP;Δ B+DeCURLY HAIRkRπHAIRiWHITE HAIRuMODIFI, FITZPATRICK TYPE-1-2d3",
   "b4b5b6bfPHASISεmTY DOCUMΔiNESTdOTE_PADbGEjPAGEaSfSET_%.FT>:qOV,B&hR^>:rSM+L CIRC.:bgN DASH",
   "eQUADeSPACEgD OF GU&Dπ&EAmL*EeMEDIUMgPROOFcTECTπ&EAoSE.CTπ&EAnTEXTdR<SMISSI;_BLOCKv%.FTW&DS>:",
   "bcQaUIRYfT,εkVELOPE_%DOWNW&DS>:vL^N*GwOLbMbTcPAcQU+ <D P&+.L TOpTO BY DEF*ITI;nOR GREAT,-TH<",
   "m.SS-TH<jPRECEDESiSUCCEEDSpS COL;fSIGNa: .FTW&DS>pPLUS~jR^W&DS>qTILDE OP,ATORtND SL<TπP&+.L",
   "_%TILDE:bl%BUMPY:lDOT δj*F*ITY δoTWO DOTS: <D TWO DOTS δbr%AST,ISKrI<GUL& TOkV+Δ TO",
   "c%FOUR DOTS:beRASE TO THE .FTeR^qIS$ ;EdTWOlROR-B&RπBLACK CIRC.gDIAM;DhSQU&EmWHITE CIRC.",
   "gDIAM;DhSQU&EySAbCaAPEeTIMATEDεiSiTBbHIOPIC COL;dMB*ΨGEM*ATI; <D VOWEL .NGTH M&KvM&K",
   "pVOWEL .NGTH M&KyMAfDIGIT E^fFIVEdOUReN*Ee;EdSEVENeIXdTHREEeWOjFULL STOPjNUMB, E^YgFIFTYeORTY",
   "fφhN*ETYgSEVΔYgIXTYfTEN_ξlHIRTYfWΔYnP&AGRAPH SEP&ATORsREFACE COL;nQUESκnSECκkMICOL;iYLLAB. BA",
   "aAcBAaAcΩbUcΩaAcUbWAbEaEcIdCAaAcCAaAcEaEcHAaAcEaEcHAaAcΩbUcIbObUcIbObUcEaEcHAaAcΩaAcUbWAdIbOaA",
   "cUbWAdDAaAcDAaAcEaEcHAAcΩbUcIbOaAcUbWAdΩaAcUbWAcZAAcΩbUdFAaAcΩbUbWAbEaEcIcYAdGAaAcEaEcGAaAcΩbU",
   "bWAaAcEaEcIdIbLOTT+ AaAcΩaAcUbWAjOaAcUaRAGE BWEEcIdFWEEcIdGWEaEcIdHHWAeKWEaEcIdMWEEcIdPWEEcI",
   "dQWEaEcIjWAaAcEaEcIcYAaAcΩbUdHAaAcEaEcHAaAcΩbUbWAbEaEcIcYAaAcΩbUdIbOaAcUcJAaAcΩaAcUbWAdKAaAcΩ",
   "aAcUbWAaAcEaEcIcXAaAcΩbUbWAaAcEaEcIdYAaAcΩbUdLAaAcΩaAcUbWAdMAaAcΩaAcUbWAbEaEcIcYAdNAaAcΩaAcU",
   "bWAcYAaAcΩaAcUbWAePAaAcEaEcHAaAbRYNGE+ AaAcΩbUkΩaAcUbWAdIbOaAcUbWAbEaEcIdQAaAcEaEcHAaAcΩbUbWA",
   "aAcEaEcIdIbOaAcUbWAaAcEaEcIcYAaAcΩbUdRAaAcΩaAcUbWAcYAdSAaAcEaBATBEIT BWAdFWAdMWAdPWAlEcHAaAcΩ",
   "aAcUbWAdIbOaAcSAaAcΩbUcUbWAcZAaAcΩbUbWAeTAaAcEaEcHAaAcΩaAcUbWAdIbOaAcSAaAcΩbUbWAdTHAAcΩbUdUbWA",
   "cZAaAcΩaAcUdVAaAcΩbUbWAdWAaAcΩaAcUcXAaAcΩaAcUbWAaAcEaEcIcYAaAcΩbUdYAaAcΩaAcUcZAaAcEaEcHAaAcΩbU",
   "bWAdIbOaAcUbWAcZAaAcΩbUmT;+ M&K CHIRETgD,ETa-HIDETkIFATfHIDETfKENATeURTeRIKRIKgSHORT RIKRIK",
   "mYIZETqWORDSPACEqXcUL, C;ST<TmRO~f-CURRENCY~oPE< CAST.gPOST OFFICEtV,GREEN TREEnXCESSdLAMAκ",
   "eQUESκxPRESSI;.SS FACErTENDπ&ABIC-*DIC D#,ObdRAT,RESTRI+ +IENsEMELY HEAVY FIVE SPOKπAST,ISK",
   "uGREEK CROSSlS+TIREgIX SPOKπAST,ISKtWHITE CIRC.gSQU&EbbYEaGLASSEShSeFACE HOLDΨBACK TE&S",
   "sMASSAGEhP+MeSAVOURΨDELICIOUS FOODxCREAMΨ* FE&rTHROWΨA KISSp%COLD SWEATiWBOY HATkDIAG;+ MOUTH",
   "oF*G, COV,ΨCLOSπLIPSbbHEAD-B<DAGEmLOOK OF TRIUMPHpMEDIC+ MASKl;OC.hNO GOOD GESTUREpOK GESTURE",
   "jNE EYEBROW RAISEDrPEN EYES <D H<D OV, MOUTHyMOUTH_<D COLD SWEAToVOMIT*GtP&TY HORN <D P&TY HAT",
   "xEEKΨEYEk.ADΨEYESnROLLΨEYESmSTUCK-OUT T;GUE_<D T^LY-CLOSπEYEStW*KΨEYEbgTE&S OF JOYlH,MOMET,",
   "lUNEVEN EYES <D WAVY MOUTHbbOUT MOUTHpSIMI.~lTORYfIRYdLAFELe.N .AFhΨDIAG;+ CROSSΨNORTH EAST>",
   "qRISΨDIAG;+y* WHITE CIRC. * BLACK SQU&EbuMILYeRSIεkTH, CHRISTMASoX IC;eMACH*EkE&FUL FACEjTH,",
   "fM+E~i**E ORD*+ *DICATORyNC,eRRIS WHEELiYeFbIELD HOCKEY STICK <D B+LzGURE DASHeSPACEk. CAB*ET",
   "hFOLD,gSEP&ATORlM FRAMESgPROJECTORmNITE P&T *TEGR+sRE_ENG*EfXT*GUISH,nCRACK,hWORK SP&KL,jS",
   "gST PLACE MED+lQU&T, MO;_SYMBOLg%FACEwSTR;G ISOLATEsSH_CAKE %SWIRL DESIGNxEYEdΨPO. <D FISH",
   "sTπH<D~oVE DOT M&KePUNCTUATI;tLAG * HO.jM*GOfT SHOEfBREADfNESSgEUR-DE-LISjXπBICEPSlOPPY DISK",
   "iR+ HE&TjW,_PLAYΨC&DSmUNCTUAκvUSHπFACEkYaΨDISCeENVELOPEiSAUC,mOGaGYdLD,eNDUEeOTaPR*TSiR +LeCES",
   "dK <D KNIFE_%PLATEvπP&AGRAPHOSo*GeM FEEDgTUNE COOKIEmUNTA*fR B+LO;-SPOKπAST,ISK",
   "xCLUB-SPOKπAST,ISKtORN,>S CIRCLΨ<TICLOCKWISEbkDOT M&KePUNCTUATI;p.AF CLOV,lPO*TπBLACK ST&",
   "sTE&DROP-SPOKπAST,ISKz-P,-EM SPACEnTH ROOTjX FACEhRACTI; NUM,ATOR ;EnSLASHlME %< XePICTURE",
   "hTI.SoEEZΨFACEkNCH FR<C~iIESkIπSHRIMPkOG FACEgNT-FACΨBABY CHICKrTILTπSHADOWπWHITE R^W&DS>bpWN",
   "aΨFACE %OPEN MOUTHbcSaIcUEL PUMPhLL BLOCKfMO;εg%FACEoOUT, JO*kSTOPfWIDTH AMP,S<DiPOSTROPHE",
   "jST,ISKiBROKEN B&kCΔ~iIRCUMF.X ACCΔqOL;dMMAb,CI+ ATnD#,OjOLL&~lEQU+S~kXCLAMAκqFULL STOP",
   "jGRAVE ACCΔkEAT,-TH<~rHYPHEN-M*USmLAT* CAPIT+ .TT,γbZqSM+L .TT,γbZtEFT CURLYθnP&ΔHESISlSQU&Eθ",
   "oWHITE P&ΔHESISuSS-TH<~nOW L*EiMACR;gNOT~hUMB,~lP,CΔ~lLUS~iOUND~kQUESκlOTAκoREV,SE SOLIDUS",
   "o^ CURLYθnP&ΔHESISlSQU&EθoWHITE P&ΔHESISxSEMICOL;iOLIDUShTILDEfχL*EnW;~iYEN~qNCTI; APPLICATI;",
   "r,+ URNjSEdVS1b2b3b4eGAME DIEgRLICfE&_%H<D.SiOUT HUBoM ST;Eg*IeNIEdOMETRIC PROPORTI;",
   "l+LY EQU+ TOfIV+Δ TOyRGI< CAPIT+ μAENcNcB<dC<cH&c*dILdD;dENcG<cH<eHAEbRcEbIEcOEd*cJH<dILdK<cH&",
   "eLASdM<dN&d;cP&cH&eQ&dRAEdS<cH*eT<bRdUNcV*dWEcX<dYNcZENcH&tμAENc*cNcB<dC<cH&c*dILdD;dELIFIeN",
   "cFIcG<cH<eHAEbRaD~iEbIEcOEd*cJH<dILdK<cH&eLABI+~jSdM<dN&d;cP&cH&eQ&dRAEdS<cH*eT<bRcURNπG<kUN",
   "cV*dWEcX<dYNcZENcH&lMTAVRULI CAPIT+ μAENc*cNcB<dC<cH&c*dILdD;dELIFIeNcFIcG<cH<eHAEbRaD~iEbIE",
   "cOEd*cJH<dILdK<cH&eLABI+~jSdM<dN&d;cP&cH&eQ&dRAEdS<cH*eT<bRcURNπG<kUNcV*dWEcX<dYNcZENcH&",
   "bcP&AGRAPH SEP&ATORtSM+L μAENcNcB<dC<cH&c*dILdD;dENcG<cH<eHAEbRcEbIEcOEd*cJH<dILdK<cH&eLASdM<",
   "dN&d;cP&cH&eQ&dRAEdS<cH*eT<bRdUNcV*dWEcX<dYNcZENcH&yRM< PENNY~pTA M&KiHOSTeIMELεkRAFFE FACEjL",
   "aSεlLAGOLITIC CAPIT+ μAZUdBIG YUSgUKYeCAUDATE CHRIVInHRIVIgDJ,VIfOBROeZELOfFITAdRITUfGLAGOLI",
   "hH,UeIaNITI+ IZHElOTATπBIG YUShSM+L YUSqZHEbITSAhKAKOeLAT*ATE MYSLITEpJUDIJEhMYSLITEhNASHIf;U",
   "cTUdPEbOKOJIgRITSIfSHAbTAaPICgLOVOeM+L YUS_%TAILsPID,Y HAkTROKUTASTI AlSIcVRIDOgUKUdVEDEeYATI",
   "d,IbUcSTUeObUcZEMLJAfHIVETEwSM+L μAZUdBIG YUSgUKYeCAUDATE CHRIVInHRIVIgDJ,VIfOBROeZELOfFITA",
   "dRITUfGLAGOLIhH,UeIaNITI+ IZHElOTATπBIG YUShSM+L YUSqZHEbITSAhKAKOeLAT*ATE MYSLITEpJUDIJE",
   "hMYSLITEhNASHIf;UcTUdPEbOKOJIgRITSIfSHAbTAaPICgLOVOeM+L YUS_%TAILsPID,Y HAkTROKUTASTI AlSI",
   "cVRIDOgUKUdVEDEeYATId,IbUcSTUeObUcZEMLJAfHIVETEbcSS OF MILKlEICH ST&KkOBE %M,IDI<SrVESdWΨST&",
   "lO+ NETfTcGG.SfLF,eRILLAfTHIC μAHSAdIHVUSgBAIRK<hDAGSeEISdFAIHUfGIBAeHAGLdWAIRfIGGWSeUJAeJ,",
   "dKUSMAfLAGUSfM<NAfNAUTHSf*E φiTYgOTH+fPAIRTHRAiQAIRTHRAiRAIDAfSAUILfTEIWSeHIUTHgURUSeW*JA",
   "sRADUATI; CAPlNTHA AU .NGTH M&KoμAaAbIbUcB|dC|dDAbD|dHAdEEcG|dHAcIaIcJ|dK|dLAbLAdMAcNAbGAcNA",
   "cYAdOOcP|dRAcS|cSAdT|cT|eUaUcVAbEDIC <USV&AiΦ <USV&AuOC+IC LaLcRaRkYAjOMcSIGN <USV&AhVAGRAHA",
   "iC<DRAB*DUkOMB*Ψ<USV&A:yNUKTAfPLUTAfVIRAMAeS&GAmVOWEL~ AAbIbUcEEcIaIcOOcUaUcVOC+IC LaLcRaR",
   "baPESdVE ACCΔkEAT,-TH<: Φ-L*E EQU+: .SS-TH<bh.SS-TH<: Φ-L*E EQU+bhR^W&DS>qSIMIL&: .SS-TH<",
   "pOR EQU+pL<TπEQU+: .SS-TH<: SL<TπEQU+ccND NOT APPROXIMATEpS*G.-L*E NOT EQU+ TObcBESIDE .SS-TH<",
   "pUT NOT EQU+ TOfIV+Δ TOvCLOSπBY CURVEa: SL<TπEQU+bjEQU+ TO OR .SS-TH<vOR APPROXIMATElEQU+ TO",
   "fIV+Δ TOn.SS-TH<jSL<TπEQU+ TO_%DOT:_.FTk*SIDEbiV, EQU+ TOjLAPPΨ.SS-TH<vSIGNe%CIRC. *SIDEnDOT",
   "dQUESκ:biEK ACROPH;IC ATTIC FIFTY_STAT,ShT+ΔSgHOUS<D_STAT,SuVE_φ_STAT,ShT+ΔSpSTAT,ShT+ΔS",
   "gHOUS<D_T+ΔSv;E DRACHMAhH+FdUNDRπSTAT,ShT+ΔSpQU&T,hξ STAT,ShT+ΔSuTEN MNASeSTAT,ShT+ΔS",
   "gHOUS<D STAT,SbaC&YSTI< FIVE φvYRENAIC TWO DRACHMASvDELPHIC FIVE MNASrEPIDAURE< FIVE φmTWO",
   "_DRACHMASxH,AEUM ;E P.THR;rMI;I< FIFTYf;EdTENoMESSENI< TENnNAXI< FIVE φtSTRATI< FIFTY MNAS",
   "tTHESPI< FIFTYdVE φhξn;E_φhξmTENcHIRTYeREE φmWOlROEZENI< FIFTY_+T,NATE$sVE_φmTEN_+T,NATE$",
   "bnNO TE.IAjROURA~jTABE~lBETAεlCAPIT+ DOTTπLUNATE SIGMAεbaKAIεkμ+PHA_%DASIA_<D OXIA_<D PROSρ",
   "xP,ISPOMENI_<D PROSρbdROSρoV&IA_<D PROSρbiMACR;gOXIAePROSρnSILI_<D OXIA_<D PROSρxP,ISPOMENI",
   "_<D PROSρbdROSρoV&IA_<D PROSρbiT;OSfV&IAeRACHYqRCHAIC SAMPInBETAeCHIdDELTAfEPSIL;_%DASIA",
   "_<D OXIAeV&IApOXIAePSILI_<D OXIAeV&IApT;OSfV&IArTA_%DASIA_<D OXIA_<D PROSρxP,ISPOMENI_<D PROSρ",
   "bdROSρoV&IA_<D PROSρbiOXIAePROSρnSILI_<D OXIA_<D PROSρxP,ISPOMENI_<D PROSρbdROSρoV&IA_<D PROSρ",
   "biT;OSfV&IAoGAMMAfHETAeIOTA_%DASIA_<D OXIAeP,ISPOMENIlV&IAoI+YTIKAjMACR;gOXIAePSILI_<D OXIA",
   "eP,ISPOMENIlV&IApT;OSfV&IAeRACHYqKAPPAfLAMDAfMUcNUcOMEGA_%DASIA_<D OXIA_<D PROSρxP,ISPOMENI",
   "_<D PROSρbdROSρoV&IA_<D PROSρbiOXIAePROSρnSILI_<D OXIA_<D PROSρxP,ISPOMENI_<D PROSρbdROSρoV&IA",
   "_<D PROSρbiT;OSfV&IAoICR;_%DASIA_<D OXIAeV&IApOXIAePSILI_<D OXIAeV&IApT;OSfV&IA",
   "sPAMPHYLI< DIGAMMArHIcIbSIdRHO_%DASIAoS<cHOcIGMAfTAUcHETAfUPSIL;_%DASIA_<D OXIAeP,ISPOMENI",
   "lV&IAoI+YTIKAjMACR;gOXIAeT;OSfV&IAeRACHYtXIcYOTdZETAkUNATE SIGMAεtREV,SπDOTTπLUNATE SIGMAε",
   "baLUNATE SIGMAεbcTHETAεuDASIA_<D OXIAeP,ISPOMENIlV&IAoI+YTIKA <D OXIAeP,ISPOMENIlV&IAjT;OS",
   "oRACHMA~mFIVE OBOLS~oOUR OBOLS~pGRAMMA~l*DICTI;~mSTRUMΔ+ NOTATI;ε-1a1b2b3b4b7b8b9c2a3b4b5b6b7",
   "b9c30b2b6b7b8b9c4a0b2b3b5b7b8b9c5a0b1b2b3b4c7b8beKAIεiPPAεlOR;ISgYATHOS BASE~rμ&CHAIC KOPPA",
   "nDIGAMMAhKOPPAfSAMPIeM+L CAPIT+ GAMMAfLAMDAfOMEGAfPIbSIdRHOqTIGMAgYOTjITRA~jOW, NUM,+~",
   "rUNATE EPSIL;εoSIGMAεtMETRETES~mUSIC+ .IMMAoNUM,+~mOBOL~iNE H+F~_+T,NATE$yQU&T,~pUNKIA~kXIA",
   "eP,ISPOMENIkHIεjIεiROSρnSILI_<D OXIAeP,ISPOMENIlV&IApQUESκnREV,SπLUNATE EPSIL;εbdHOεg%ηε",
   "wS*USOID~mM+L DOTTπLUNATE SIGMAεbaμ+PHA_%DASIA_<D OXIA_<D YPOρwP,ISPOMENI_<D YPOρbdV&IA",
   "_<D YPOρxYPOρxMACR;gOXIA_<D YPOρwP,ISPOMENI_<D YPOρbcSILI_<D OXIA_<D YPOρwP,ISPOMENI_<D YPOρ",
   "bdV&IA_<D YPOρxYPOρxT;OSfV&IA_<D YPOρwRACHYgYPOρxRCHAIC KOPPAfSAMPInBETAeCHIdDELTAeIGAMMA",
   "hEPSIL;_%DASIA_<D OXIAeV&IApOXIAePSILI_<D OXIAeV&IApT;OSfV&IArTA_%DASIA_<D OXIA_<D YPOρ",
   "wP,ISPOMENI_<D YPOρbdV&IA_<D YPOρxYPOρxOXIA_<D YPOρwP,ISPOMENI_<D YPOρbcSILI_<D OXIA_<D YPOρ",
   "wP,ISPOMENI_<D YPOρbdV&IA_<D YPOρxYPOρxT;OSfV&IA_<D YPOρxYPOρwF*+ SIGMAlGAMMAfHETAeIOTA_%DASIA",
   "_<D OXIAeP,ISPOMENIlV&IAoI+YTIKA_<D OXIAeP,ISPOMENIlT;OSfV&IAtMACR;gOXIAeP,ISPOMENIkSILI",
   "_<D OXIAeP,ISPOMENIlV&IApT;OSfV&IAeRACHYqKAPPAeOPPAfLAMDAfMUcNUcOMEGA_%DASIA_<D OXIA_<D YPOρ",
   "wP,ISPOMENI_<D YPOρbdV&IA_<D YPOρxYPOρxOXIA_<D YPOρwP,ISPOMENI_<D YPOρbcSILI_<D OXIA_<D YPOρ",
   "wP,ISPOMENI_<D YPOρbdV&IA_<D YPOρxYPOρxT;OSfV&IA_<D YPOρxYPOρwICR;_%DASIA_<D OXIAeV&IApOXIA",
   "ePSILI_<D OXIAeV&IApT;OSfV&IAsPAMPHYLI< DIGAMMArHIcIbSIdRHO_%DASIAfPSILIoSAMPIdNcHOcIGMAeTIGMA",
   "gTAUcHETAfUPSIL;_%DASIA_<D OXIAeP,ISPOMENIlV&IAoI+YTIKA_<D OXIAeP,ISPOMENIlT;OSfV&IAtMACR;",
   "gOXIAeP,ISPOMENIkSILI_<D OXIAeP,ISPOMENIlV&IApT;OSfV&IAeRACHYtXIcZETAlREV,SπDOTTπLUNATE SIGMAε",
   "baLUNATE SIGMAεbhUBSCRIPT SM+L μBETAeCHIdGAMMAfPHIdRHOzYMBOL TAU RHOoT+Δ~kHETAεkREE OBOLS~",
   "kQU&T,S~s;OSeRYBLI; BASE~rWO OBOLS~kTHIRDS~pUPSIL; %ACUTE <D ΞεvDIA,ESIS <D ΞεzΞεyV&IA",
   "eOC+ NOTATI;ε-1a!c2a0b1b2b3b4c3b4b5a0b1b2b3b4c6b7b8b9xXESTES~lYE&~iPOρnZ,O~lN APP.fBOOKeHE&T",
   "fS+ADjIMACΨFACElNNΨCAT FACE %SMILΨEYESbaFACE_%;E L&GE <D ;E SM+L EYEbbSMILΨEYESlT& EYES",
   "baOUP M&KeSEP&ATORmWΨHE&TmSbU&<I~iDSM<hIDE DOGgT&eJ&ATI ABBREVIATI;~rD#,OkμAaAbIbUcB|dC|dDAbD|",
   "dHAdEbG|dHAcIaIcJ|dK|dLAbLAdMAcNAbGAcNAcYAdObP|dRAcS|cSAdT|cT|eUaUcVAbOC+IC LaLcRaRkYAcZHAkOM",
   "cRUPEE~kSIGN <USV&AhVAGRAHAiC<DRAB*DUkIRC. NUKTA:sMADDAHgNUKTAfSHADDAfUKUNfTHREE-DOT NUKTA:",
   "uWO-CIRC. NUKTA:wVIRAMAeS&GAmVOWEL C<DRA EbOiSIGN AAbIbUcC<DRA EbOiEbIaIcObUaUcVOC+IC LaLcRaR",
   "bcNJ+A G;DI D#,OkμAaAbIbUcB|dC|dDAbD|dHAdEEcG|dHAcIaIcJ|dK|dLAbLAdMAcNAbGAdOOcP|dRAcSAcT|cT|eU",
   "aUcVAcYAjOMcSIGN <USV&AiVIS&GAmVIRAMAfOWEL~ AAbIbUcEEcIaIcOOcUaUzRMUKHI ABBREVIATI;~qDDAKfD#,O",
   "kEK ;K&iIRIdμAaAbIbUcB|dC|dDAbD|dHAdEEcFAcG|bHAeHAcIaIcJ|dK|bHAeLAbLAdMAcNAbGAcNAcYAdOOcP|dRA",
   "bRAdS|dT|cT|eUaUcVAcYAcZAjSIGN ADAK B*DIkB*DIfNUKTAfUDAATfVIRAMAeS&GAhYAKASHlTIPPIfURA",
   "dVOWEL~ AAbIbUcEEcIaIcOOcUaUwHADESdIR SPACEgCUTfLFWIDTH BLACK SQU&EmDOWNW&DS>pFORMS L^ V,TIC+",
   "uH<GUL FILL,gμAaEcCHIEUCHgIEUCfEaObUcHIEUHfIaEUNGfKHIEUKHgIYEOKa-SIOSlMIEUMfNIEUNa-CIEUCfHIEUH",
   "lOaEcPHIEUPHgIEUPa-SIOSkRIEULa-HIEUHfKIYEOKgMIEUMfPHIEUPHgIEUPfSIOSeTHIEUTHnSIOSdS<GCIEUC",
   "fKIYEOKgPIEUPfSIOSeTIKEUTlTHIEUTHgIKEUTgUbWAaEcEaOcIcYAaEcEaOcIbObUqIDEOGRAPHIC COMMA",
   "fFULL STOPvKATAK<A μAbEbHψcIbKψcMψcNaψcObRψcSAbEbIbM+L AbEbIbObTUcUbYAbObUhObUcTψcUbWAbOcYAbO",
   "bUjΛDOTkSEMI-VOICπSOUND M&KwVOICπSOUND M&Ks-HIRAG<A PROL;GπSOUND M&Kbm.FT CORN,θpW&DS>",
   "pR^ CORN,θpW&DS>qUPW&DS>nWHITE CIRC.uMBURG,gM,_<D PICKeSICK.gWRENCHoSAbT, FACE",
   "kND %*DEX <D ΛF*G,S CROSSEDbaF*G, <D THUMB CROSSEDbkBAGbLLeSHAKEgGUL CHOSE;G CE;GCHIEUMCHIEUCH",
   "gIEUCfSIOSdS<GCIEUCfSIOStHIEUCHa-HIEUHfKHIEUKHmTUEUMCHIEUCHgIEUCfSIOSdS<GCIEUCfSIOSqIEUC",
   "a-IEUNGlFILL,gHIEUHa-SIOSkIEUNGa-CHIEUCHgIEUCfHIEUHfKIYEOKgMIEUMfP<SIOSgHIEUPHgIEUPfRIEULfSIOS",
   "eTHIEUTHgIKEUTmKAPYEOUNMIEUMfPHIEUPHgIEUPfRIEULfSS<GPIEUPrHIEUKHgIYEOKa-TIKEUTnMIEUMa-KIYEOK",
   "gPIEUPfSIOSeTIKEUTmNIEUNa-CIEUCfHIEUHfKIYEOKgPIEUPfSIOSeTIKEUTmP<SIOSgHIEUPHa-HIEUHfPIEUPmIEUP",
   "a-CHIEUCHgIEUCfHIEUHfKHIEUKHgIYEOKgNIEUNfPHIEUPHhSIOSa-CIEUCfKIYEOKgPIEUPfTHIEUTHgIKEUT",
   "kS<GSIOSjTHIEUTHgIKEUTmRIEULa-CIEUCfHIEUHfKAPYEOUNPIEUPmHIEUKHgIYEOKgMIEUMfNIEUNfPIEUPfSIOS",
   "dS<GKIYEOKgPIEUPfTIKEUTlTIKEUTmSIOSa-CHIEUCHgIEUCfHIEUHfIEUNGfKHIEUKHgIYEOKgMIEUMfNIEUN",
   "fPHIEUPHgIEUPa-KIYEOKmRIEULfSS<GSIOSjTHIEUTHgIKEUTkS<GCIEUCa-HIEUHlHIEUHfIEUNGfKIYEOKgNIEUN",
   "fPIEUPfRIEULfSIOSa-PIEUPkTHIEUTHgIKEUTgYEOR*HIEUHqTHIEUTHgIKEUTa-CIEUCfKIYEOKgMIEUMfPIEUP",
   "fRIEULfSIOSlYEOR*HIEUHjSIEUNGrΦ DOT T;E M&KuFILL,gJ;GSE;G CHIEUCHgIEUCa-PIEUPfSS<GPIEUPqHIEUH",
   "a-MIEUMfNIEUNfPIEUPfRIEULlIEUNGa-KHIEUKHgIYEOKgSS<GKIYEOKrKAPYEOUNMIEUMfPHIEUPHgIEUPfRIEUL",
   "mHIEUKHgIYEOKa-CHIEUCHhHIEUHfKHIEUKHhNIEUNfPIEUPfRIEULfSIOSa-KIYEOKsMIEUMa-CHIEUCHgIEUCfHIEUH",
   "fKIYEOKgNIEUNfP<SIOSgIEUPa-SIOSkRIEULfSIOSdS<GNIEUNfSIOSpNIEUNa-CHIEUCHgIEUCfHIEUHfKIYEOK",
   "gP<SIOShRIEULfSIOSeTHIEUTHgIKEUTmP<SIOSa-KAPYEOUNPIEUPnPIEUPmHIEUPHa-PIEUPfSIOSeTHIEUTHoIEUP",
   "a-CHIEUCHgIEUCfHIEUHfMIEUMfPHIEUPHhRIEULa-PHIEUPHnSIOSa-TIKEUTlTIKEUTmRIEULa-HIEUH",
   "fKAPYEOUNPIEUPmHIEUKHgIYEOKa-HIEUHfSIOSlMIEUMa-HIEUHfKIYEOKgSIOSkNIEUNfP<SIOSgHIEUPHgIEUP",
   "a-HIEUHfPHIEUPHhSIOSeTIKEUTmSIOSdS<GKIYEOKgSIOSjTHIEUTHgIKEUTa-HIEUHmYEOR*HIEUHa-HIEUHpSIEUNG",
   "oSIOSa-CHIEUCHgIEUCfHIEUHfKAPYEOUNPIEUPmIYEOKgMIEUMfP<SIOSgIEUPfRIEULfTHIEUTHgIKEUTkS<GCIEUC",
   "fIEUNGfKIYEOKgMIEUMfNIEUNfPIEUPfRIEULa-KHIEUKHnSIOSa-KIYEOKgTIKEUTlTIKEUTa-PIEUPmYESIEUNG",
   "nTHIEUTHgIKEUTa-CHIEUCHgIEUCfKIYEOKgPIEUPfRIEULfSIOSa-KIYEOKlTHIEUTHoYEOR*HIEUHjSIEUNGa-HIEUH",
   "fKHIEUKHgIYEOKgMIEUMfP<SIOShSIOSdS<GKIYEOKbdUNGSE;G Aa-EUcObUcEbRAEAa-AbEaOcIbUhEaOa-EUcObUdU",
   "a-AbEaObUcObUeFILL,gIa-AaRAEAfEUcIbOa-IdUbYAa-OcEcEaOcObUeOa-EaOcOa-IdUbYAaEcEaOeEcSS<G&AEAkU",
   "a-AaEcEO-EUfI-IdUbYEaOfWAaEcEaOcIcYAa-ObUbYOdEcEaOa-ObUbYAfIa-UdOa-AaEcEOcIbObYAaEcEOfUa-AaEcE",
   "aOcIbObUbYEaOqμAaEbRAEAaEgCHIEUCHgIEUCfEaObUcHIEUHfIaEUNGfKAPYEOUNMIEUMfPHIEUPHgIEUPfSS<GPIEUP",
   "rHIEUKHgIYEOKa-SIOSlMIEUMa-P<SIOSgIEUPfSIOSkNIEUNa-CIEUCfHIEUHfP<SIOShSIOSeTIKEUTmOaEcP<SIOS",
   "gHIEUPHgIEUPa-CIEUCfKIYEOKgSIOSa-KIYEOKgTIKEUTlTHIEUTHgIKEUTmRIEULa-HIEUHfKIYEOKa-SIOSlMIEUM",
   "fP<SIOSgHIEUPHgIEUPa-SIOSkSIOSeTHIEUTHgIKEUTgYEOR*HIEUHrSIOSa-CIEUCfKIYEOKgNIEUNfPIEUPfTIKEUT",
   "kS<GCIEUCfHIEUHfIEUNGfKIYEOKgNIEUNfPIEUPfSIOSeTIKEUTlTHIEUTHgIKEUTgUbWAaEcEaOcIcYAaEcEaO",
   "aR*HIEUHjSIEUNGa-P<SIOShSIOSmIbOa-IbYAaEfUa-IbYEaOnS*G. DOT T;E M&KxZHOU NUM,+ E^fFIVEdOUReN*E",
   "e;EdSEVENeIXdTENcHIRTYeREEeWΔYeOrIFI ROH*GYA D#,OkμAbBAcCAcDAbDAdFAcGAcHAcJAcK|c*NA WAcYAiLA",
   "cMAcNAbGAcYAdPAcRAbRAdS|dTAbTAdVAcWAcYAcZAjM&K NA KH;NAjSAK*kSIGN H&BAHAYiTAH+AeNAcSSIkVOWEL ψ",
   "uUNOO μAbBAcDAcGAcHAcIbKAcLAcMAcNAbGAdPAcRAcSAcTAcUbWAcYAjSIGN PAMUDPODnVOWEL~ IbU",
   "sPPY P,S; RAISΨ;E H<DbbRD DISKhTCHΨCHICKlR< μ+EPHeYNdBETHeD+ETH-RESHlGIMELfHEaTHeKAPHeLAMEDH",
   "gMEMdNUNdPEcQOPHeSADHEdMEKHfH*eTAWcETHeWAWdYODHeZAYNlNUMB, FIVEe;E_φlTENcWΔYtEADPH;EfST;E",
   "_GRAVEY&DεxR-NO-EVIL M;KEYpT DECORATI;kH<DSf%&ROWfRIBB;gTIP ; THE .FTxVY AMP,S<D ORNAMΔ",
   "rRROW SHAFT WIDTH ;E_H+FeTHIRDjTWO THIRDSbbST,ISKiB+LOT XhLACK CURVπDOWNW&DS <D R^W&DS>",
   "beUPW&DS <D R^W&DS>bjHE&Tg-FEATH,πNORTH EAST>qR^W&DS>qSOUTH EAST>bgCHECK M&KhVR; SNOWFLAKE",
   "qIRC._%CIRC. *SIDEnη <D TWO DOTS:bfD S+TIREo;CAVE-PO*TπBLACK R^W&DS>bmDASHπTRI<G.-HEADπR^W&DS>",
   "bmIVISI;~mOLL&~jUB. COMMA QUOTAκ ORNAMΔbdTURNπCOMMA QUOTAκ ORNAMΔbpWNW&DS> %EQUILAT,+>HEAD",
   "vL&GE EQUILAT,+>HEADbwE^ PO*TπBLACK ST&kP*WHEEL ST&nRECTIL*E& BLACK ST&beSPOKπAST,ISK",
   "pTE&DROP-SPOKπPROPELL, AST,ISKbnQU+S~kXCLAMAκ ORNAMΔiSYMBOLxFIVE PO*TπBLACK ST&sSPOKπAST,ISK",
   "tOUR B+LO;-SPOKπAST,ISKbcGREEK CROSSlHE&T EXCLAMAκ ORNAMΔbeORIZ;T+ FILLp*T,ROB<G ORNAMΔ",
   "uL&GE CIRC.kT* CROSSkEFT-PO*TΨ<G.θ ORNAMΔqQUOTAκ ORNAMΔbnW&DS> %EQUILAT,+>HEAD",
   "vL&GE EQUILAT,+>HEADbvIGATURE OPEN ET ORNAMΔyOW Φ COMMA QUOTAκ ORNAMΔ",
   "bkS*G. COMMA QUOTAκ ORNAMΔbl, R^-SHADOWπWHITE R^W&DS>brM*US~jULTIPLICATI; XqNORTH EAST>",
   "fPO*TΨBUDdV*E .AFxWEST PO*TΨBUDdV*E .AFbdOPEN CΔRE CROSSqUTL*πBLACK ST&sV+ %OV+ *SIDEvPLUS~",
   "jR^-PO*TΨ<G.θ ORNAMΔqQUOTAκ ORNAMΔbnW&DS>_%EQUILAT,+>HEADvL&GE EQUILAT,+>HEAD",
   "bwOUND-TIPPπR^W&DS>bdS+TIREfNS-S,IF *T,ROB<G ORNAMΔbeCRIPT LIGATURE ET ORNAMΔ",
   "ba*G. COMMA QUOTAκ ORNAMΔbdTURNπCOMMA QUOTAκ ORNAMΔbpX PO*TπBLACK ST&sSPOKπAST,ISKsOUTH EAST>",
   "fPO*TΨBUDdV*E .AFxWEST PO*TΨBUDdV*E .AFbcP&K.hTE&DROP-SH<KπR^W&DS>xPOKπAST,ISKiP*WHEEL AST,ISK",
   "bgRI<G.-HEADπR^W&DS>bfWELVE PO*TπBLACK ST&kP*WHEEL ST&bcUPP, R^-SHADOWπWHITE R^W&DS>",
   "bpW&DS> %EQUILAT,+>HEADvL&GE EQUILAT,+>HEADbuχB&mWEDGE-TAI.D R^W&DS>bcHITE CIRC.",
   "gDOWN-PO*TΨTRI<G.wSQU&ElIDE-HEADπR^W&DS>bgBREW ACCΔ ATNAH HAFUKHmD&GAeEHIeETNAHTAhG,ESH_MUQDAM",
   "kSHAYIMjILUYeMAHAPAKHh,KHA_KEFULAmUNAHfO.dPASHTAeZ,fQADMAdRNEY P&AlREVIAfSEGOLeH+SHE.T",
   "kTELISHA GEDOLAgQET<AmVIReIPEHAgY,AH BEN YOMOmTIVfZAQEF GADOLfQAT<jRQAe*ORmμ+EF_%MAPIQfPATAH",
   "fQAMATSoT,NATIVE AY*ePLUS~uY*eBET_%DAGESHgRAFEnD+ET_%DAGESHrF*+ KAF_%DAGESHpMEMdNUNdPE_%DAGESH",
   "oTSADIlGIMEL_%DAGESHrHE_%MAPIQlTdKAF_%DAGESHgRAFEnLAMED_%DAGESHrMEM_%DAGESHpNUN_%DAGESHpPE",
   "_%DAGESHgRAFEmQOF_%DAGESHpRESH_%DAGESHqSAMEKH_%DAGESHrH*_%DAGESH_<D SH* DOTh* DOTsSH* DOT",
   "h* DOTrTAV_%DAGESHoET_%DAGESHoSADI_%DAGESHrVAV_%DAGESHgHOLAMoWIDE +EFeD+ETfF*+ MEMjHEcKAF",
   "dLAMEDfRESHeTAViYOD_%DAGESHgHIRIQoZAY*_%DAGESHxIGATURE +EF LAMEDkYIDDISH Φ VAVdYODkVAV YOD",
   "hYOD YOD PATAHbeM&K LOW, DOTjMASORA CIRC.nUPP, DOToPO*T DAGESH OR MAPIQpHATAF PATAHfQAMATS",
   "gSEGOLkIRIQeOLAM_HAS, FOR VAVtJUDEO-SP<ISH V&IKAuMETEGfPATAHfQAMATS_QAT<lUBUTSgRAFEeSEGOLeHEVA",
   "d* DOTh* DOThTS,EkUNCTUATI; G,ESHdSHAYIMjMAQAFfNUN HAFUKHAlPASEQfSOF PASUQvYOD TRI<G.rDGEHOG",
   "gLICOPT,hLSCHREIB, PAUSEεxMεhET %WHITE CROSSvNTAIG<A μA-1b2b3bWOeE-ζb6dHA-1a0b1c2b3b4b5b6b7b8",
   "b9dE-ζb6b7dI-ζb6b7dO-ζb6b7b8dU-1b2b3eI-1b2b3b4dKA-1a0b1c2b3b4b5b6b7b8b9bKEeE-ζb6dI-ζb6b7b8dO-1",
   "b2b3bKIeU-ζb6b7eMA-ζb6b7dE-1b2bMAeI-ζb6b7dO-ζb6dU-1b2b3b4eN-MU-MO-1b2iA-ζb6b7b8b9dE-ζb6bKOeI-ζ",
   "b6b7bTEeO-ζdU-1b2b3eO-1b2b3dRA-1b2b3b4dE-1b2b3b4dI-ζb6b7dO-ζb6dU-ζb6eSA-ζb6b7b8dE-ζdI-ζb6dO-ζ",
   "b6b7dU-ζb6b7b8eTA-1b2b3b4dE-ζb6b7b8b9dI-ζb6b7dO-ζb6bRAeU-1b2b3b4bTOfU-ζdWA-ζdE-1b2b3b4dI-ζdO-ζ",
   "b6b7eYA-ζbYOeO-ζb6dU-1b2b3b4uRBbMITI< C;JUGATE MATRIXyXAGRAM FOR ABUND<CEiFT, COMP.TI;pPPROACH",
   "iBEFORE COMP.TI;qITΨTHROUGHnREAKTHROUGHmCOMΨTO MEETmNFLICTfTEMPLATI;nD&KENΨOF THE L^vECREASE",
   "gLIV,<CEjVELOPMΔkIFFICULTY AT THE BEG*N*GzSP,SI;jURATI;iΔHUSIASMkFELLOWSHIPjOLLOW*G",
   "jGATH,ΨTOGETH,rRACEdEAT POSSESSI;iW,eREP;D,<CEnTAM*GmHOLDΨTOGETH,q*CREASEgFLUENCEhN, TRUTH",
   "iOCENCEjLIMITATI;kMODESTYfUTH CORN,SnOBSTRUCTI;kPPOSITI;hRESSI;kPEACEeROGRESShUSHΨUPW&D",
   "oRETREATeURNeVOLUTI;kSM+L PREP;D,<CEnTAM*GlPLITTΨAP&ToT<DSTILLkTHE ABYSM+ WAT,mRMYcOUSΨTHUND,",
   "qCAULDR;hL*GΨFIREmREATIVE HEAVENpFAMILYgGΔ. W*DlJOYOUS LAKElKEEPΨSTILL MOUNTA*wM&RYΨMAIDEN",
   "pRECEPTIVE E&THpW<D,,hELLhREAD*GiWAIT*GgORK ; THE DECAYEDtYOUTHFUL FOLLYbaIBISCUSgGH BR^NESSε",
   "rOCTET PRESETmVOLTAGE~n-HEE.D SHOElSPEπTRA*_%BUL.T NOSEbfKΨBOOTjNDU TEMP.kPPOPOTAMUS",
   "kRAG<A DIGRAPH YORImIT,AκoμAaRCHAIC WUcYEkBψcDψcEbGψcHψcIbKψcMψcNaψcObPψcRψcSAbEbIbM+L AbEbI",
   "bKAbEcObTUcUbWAbEbIbOcYAbObUhObUcTψcUbVUcWAbEbIbOcYAbObUcZψjVOICπIT,AκbcSTORIC SITEmOCHOd.",
   "bLOW QUILT SQU&E ORNAMΔ_* BLACK SQU&EbqMOTHETICiNEY POTeBEEgOKcPbRIZ;T+ B&cLACK HEXAG;hOCTAG;",
   "nELLIPSISiL*E EXTENSI;oM+E %η~v;E E^H BLOCK-1358e2b3b4b5b6b7sSC< L*E-1b3b7b9lTAB KEYeULATI;",
   "_SETd%JUSTIFICATI;bcRAFFIC L^vSE_FACEeRAC*GkSPIT+gT BEV,AGEiDOGdPEPP,gSPR*GSiELdURGLASS",
   "_%FLOWΨS<DySE_BUILD*GaSj%G&DENqRYVNIA~lTaJbScUGGΨFACEkNDRπPO*TSεtSHπFACEjTcYGIEAePHEN_BUL.T",
   "g%DIA,ESISp-M*USgATI; PO*ToODIASTO.kST,ESISεrI LOVE YOU H<D~tCE CREAMeUBEeHOCKEY STICK <D PUCK",
   "vSKATEiDΔIC+ TO_<D SL<TπP&+.Lx%DOT:sFICATI; C&DqOGRAPHIC <NOTATI; BOTTOM M&KlE&TH M&K",
   "kFIRST M&KjOUR M&KfTH M&KlHEAVEN M&KlL*KΨM&KmM< M&KhIDD. M&Kl;E M&KiREV,SE M&KmSEC;D M&K",
   "lTHIRD M&KiREE M&KjOP M&KhWO M&KtCLOSΨM&KlOMMAfDEP&TΨT;E M&KrSCRIPTI; CH&ACT,: TO δfΛ<D δ",
   "zFULL SURROUNDn.FT TO Λ<D R^qR^nOV,LAIDiSURROUND FROM:fδf.FTdOW, .FTkUPP, .FTeR^bvΔ,ΨT;E M&K",
   "sFULL STOPjH+F FILL SPACEpIT,Aκo.VEL T;E M&KpNUMB, Z,OlRISΨT;E M&KqSPACEfT+LY M&K FIVEdOURe;E",
   "dTHREEeWOnE.GRAPH L*E FEπSEP&ATORεbaSYMBOL FOR APRILeUGUSTgDAY E^aEENh.VENgFIFTEENfVEdOURaTEEN",
   "iN*EaTEENi;EdSEVENaTEENiIXaTEENhTENcHIRTEENdYa-;EiREEeWELVEdNTYa-E^fFIVEdOUReN*Ee;EdSEVENeIX",
   "dTHREEeWOiOgECEMB,iFEBRU&YiHOUR E^aEENh.VENgFIFTEENfVEdOURaTEENiN*EaTEENi;EdSEVENaTEENiIXaTEEN",
   "hTENcHIRTEENgREEeWELVEdNTYa-FOURe;EdTHREEeWOiOdZ,OjJ<U&YgULYcNEeM&CHdYdNOVEMB,iOCTOB,hSEPTEMB,",
   "beV&IATI; *DICATORbeMAGE OF_OR APPROXIMATELY EQU+ TObgPa,I+ &AMAIC μ+EPHeY*eBETHeD+ETHgGIMEL",
   "fHEaTHeKAPHeLAMEDHgMEMdNUNdPEcQOPHeRESHeSADHEdMEKHfH*eTAWcETHeWAWdYODHeZAY*mNUMB, ;E_φhξmTEN_ξ",
   "lHREEeWΔYeOkSECTI;~bcNBOX TRAYiCOMΨENVELOPEmP.TE *F*ITYqREASE F;T SIZEεrS AShMΔhDaEX",
   "_PO*TΨAT THE VIEW,zI< RUPEE~nC SIYAQ +T,NATE LAKH M&KtFRACTI; ;E H+FeQU&T,lTHREE QU&T,S",
   "xLAKH M&KjNUMB, +T,NATE ;EdTEN ξlWOnE^_φhξjY_ξpFIFTY_ξmVE_φhξmORTY_ξmUR_φhξnK&ORa<hLAKHa<gN*E",
   "_φhξjTY_ξp;E_φhξmPREFIXπE^fFIVEdOUReN*Ee;EdSEVENeIXdTHREEeWOmSEVEN_φhξjTY_ξpIX_φhξjTY_ξoTEN_ξ",
   "lHIRTY_ξnREE_φhξnWΔY_ξnO_φhξtPLACEHOLD,lRUPEE M&KuF*ITY_NEGATπ%χB&bfORMATI; DESK P,S;",
   "lSEP&ATOR FOURe;EdTHREEeWOmOURCEqHIBIT &ABIC$ SHAP*GtSYMMETRIC SWAPP*G",
   "yPUTε FOR LAT* CAPIT+ .TT,Sp.TT,ShSM+L .TT,StNUMB,ShSYMBOLSwSCRIPTI;+ PAHLAVI μ+EPHfBETHeD+ETH",
   "gGIMELfHEaTHeKAPHeLAMEDHgMEM-QOPHiNUNdPEcSADHEdMEKHfH*eTAWcETHeWAW-AY*-RESHnYODHeZAY*",
   "mNUMB, FOURe;E_φhξmTENcHREEeWΔYeOqRTHI< μ+EPHeY*eBETHeD+ETHgGIMELfHEaTHeKAPHeLAMEDHgMEMdNUNdPE",
   "cQOPHeRESHeSADHEdMEKHfH*eTAWcETHeWAWdYODHeZAY*mNUMB, FOURe;E_φhξmTENcHREEeWΔYeObe,TI;εoTEGR+",
   "_&OUND A PO*T OP,ATORwV,AGE %SLASHsEXTENSI;j%Φ ηn*T,SECTI;m.FTW&DS> %ΞzOV,B&hTIMES~kUND,B&gI;",
   "pRC+ATEgIOR PRODUCTlL*E& <NOTATI; <CHORgSEP&ATORjT,M*ATORbbOCKπFEM+E <D M+E~bbROB<GgSECTI;",
   "a: B&: UNI;pUNI;lBESIDE <D JO*π%*T,SECTI;bj%DOTdLOGIC+ <DlOV,B&xV,SE BUL.TgCHECK M&K",
   "f, BO&D FILLsDOWNW&DS> %TIP .FTW&DSbiMEDIUM SHADEmWHITE CIRC.pTπEXCLAMAκq*T,ROB<GlLAZY S",
   "fOW KAVYKA_%KAVYKA:bcOHM~iPΔAGRAMjQUESκnUND,TIEoISIB. PLUSeSEP&ATORjTIMESoZAKAYA L<T,N",
   "pJACK-O-L<T,NmP<ESE B<KεlCAST.gDOLLSfGOBL*g*DUSTRI+ ST<D&DεbaOGREePOST OFFICE",
   "lSYMBOL FOR BEG*N,baRbV<ESE C;S;<T~ CAKRAfK,ETfPENGK+wD#,Ok.FT R,ENGG<mTT, AaIcBA_MURDAiCA",
   "_MURDAiDA_MAHAPR<AlDA_MAHAPR<AnEbGA_MURDAiHAcI_KAWIfIcJA_MAHAPR<AmKA_MURDAfSASAKiLAcMAcNA",
   "_MURDAhGA_..T_RASWADIqYA_MURDAjObPA_C,EKfMURDAiRA_AGUNGiSA_MAHAPR<AiURDAiTA_MURDAhTA_MAHAPR<A",
   "nUbWAcYAjPADA ADEG_ADEGiNDAPfISEN-ISENjL*GSAfUHURdNGSIgMADYAfP<GKATgISE.HhTIRTA TUMETESnW*DU",
   "iNGK;dR<GKEPlR^ R,ENGG<pSIGN CECAK_TELUkLAY&fP<Y<GGAjWIGNY<mTURNπPADA PISE.HtVOWEL~ DIRGA MURE",
   "kPEPETfSUKU_MENDUTlT+*GeRUNGfOL;GgWULU_MELIKbdE<SeIGSAW PUZZ. PIECEsO*cYSTICKhUGGL*GgNOcPIT,",
   "hKAABAdITHI ABBREVIATI;~rD<DAeOUB. D<DAfSECκtENUM,ATI;~qμAaAbIbUcB|dC|dDAbDAbDHAdHAdHAdEbG|dHA",
   "cIaIcJ|dK|dLAcMAcNAbGAcNAcYAdObP|dR|dS|cSAdT|cT|eUaUcVAcYAjNUMB,~a:rSECκlIGN <USV&AiC<DRAB*DU",
   "lNUKTAfVIRAMAeS&GAmVOWEL~ AAbIbUcEbIaIcObUaUcVOC+IC RzNG&OOeXI RADIC+ AGA*eNDcRRIVEdOWeXE",
   "dBADG,eMBOOfE<dIGbRDcTT,fLACKdOODdUEdOATcDYcLT OF CLOTHlNEcWcR<CHeIST.fUSHfC&TcULDR;gVEdHILD",
   "eITYdL<bWcIFFdOTHESgOLORdMP&EfRPSEeV,dWdDEATHd,dIPP,eSHbT*GUISHjV*ATI;jO NOTeGbORcTaTπCLIFFfTΔ",
   "jUB. XgWN BOXhRAG;eUMcYdE&aTHdTc^eMBROID,YjNCLOSUREhT,eVENa*GgYEdFACEcNGcTH,fEATH,gIELDdGHTdRE",
   "cSHdLUTEdYcOOTdRAGR<TgOGdURdGATEdHOSTeO_SLOWLYhLDdRA*cSSfHAIRcLB,DeF TREE TRUNKnNDdEADbRTdMP",
   "dIDΨENCLOSUREpOOKcRNbSEfICEcNCHcSECTgJADEcRdKNIFEfLACKcMEdEAFbTH,fEKcGSdIDbFEcNEd;G_STRIDElM<",
   "cEATcL;eIL.TeNIST,hO;cRN*GeT&eUNDbTA*fTHfNETcOSEcTdOLDcNEaSELFgPEN BOXgPOSEgPIGcLOWdOW,eRIVATE",
   "fOFOUNDiRA*cPbTcEDcICEcGHT OPEN BOXmV,eOOFdUNdSACRIFICI+ W*EoLTcYcCHOL&fRIPTfE+cC;DeEbLFdHEEP",
   "cLLdOOTcRT TAI.D BIRDkHREADlICKNESSgLKdK*dLASHcVEdICEeM+LeNOUTeOUNDePE&cECHeIRITeO;dROUTfQU&E",
   "fT<DdEAMcPc;EcPaP*GhUNcWEETfTAB.dLLcNNπ.ATH,nENcIG,d.d;GUEeOTHeRACKdEEcIPODfURB<dT.fWO_H<DS",
   "jUSEdV+.YfILLAGEhW+K_ENCLOSUREmT,eEAP;eSTdHEATdITEe*DbEdOM<dRKdRAPc;GfYELLOWsNADA AI .NGTH M&K",
   "oD#,Ok.NGTH M&KjTT, AaAbIbUcB|dC|dDAbD|dHAdEaEcFAcG|dHAcIaIcJ|dK|dLAbLAbLAeMAcNAaKA&A POLLUmGA",
   "cNAcYAdOaOcP|dRAbRAdS|cSAdT|cT|eUaUcVAbOC+IC LaLcRaRkYAjSIGN <USV&AhVAGRAHAiC<DRAB*DU",
   "lJIHVAMULIYAlNUKTAfSIDDHAMgPACΨC<DRAB*DUtUPADHM<IYAlVIRAMAeS&GAmVOWEL~ AAbIbUcEaEcIaIcOaOcUaU",
   "cVOC+IC LaLcRaRbbTAK<A DIGRAPH KOTOmIT,AκoμAaRCHAIC EbWUcYEbIkBψcDψcEbGψcHψcIbKψcMAbEbI",
   "aNN< NAS+IZπT;E-ζb7b8qT;E-2b3b4b5b7b8mObUcNaψcObPψcRψcSAbEbIbM+L AbEbHψcIbKAbEbUcMUcNaUcObRψ",
   "cSIbUcTObUcUbWAbEbIbOcYAbObUhObUcTψcUbVψcWAbEbIbOcYAbObUcZψjΛDOTkVOICπIT,Aκw-HIRAG<A Φ HYPHEN",
   "nPROL;GπSOUND M&KuSEMI-VOICπSOUND M&KwVOICπSOUND M&KbhYAH LI D#,OkμAbBAcCAcDAcGAcHAbTAdIbK|dLA",
   "cMAcNAbGAcYAdOEbOcP|dRAcS|dT|dVAcWAcYAcZAjSIGN CWIdSHYAjT;E C+YA_PLOPHUmPLOPHUlVOWEL EaEcObUaE",
   "qELV*~jYaBO&D_<D MOUSEpCAP TENjH&OSHTHI DIGIT FOURe;EdTHREEeWOjFRACTI; ;E H+FrμAbB|dC|dDAbD|",
   "dHAdG|dHAcJAcK|cKAdLAcMAcNAbNAcYAdP|dRAcS|cSAdT|cT|cT|fV|dYAcZAjNUMB, ;E φhξmTENcWΔY",
   "nPUNCTUATI; CIRC.fRESCΔ B&mD<DAeOTbUB. D<DAmL*ESeOTUSfM<G+AMiSM+L CIRC.ySIGN <USV&AiB&:jCAUDA",
   "fDOT δhUB. RΨδrVIS&GAmVIRAMAfOWEL .NGTH M&KlSIGN EbIbObUbVOC+IC R",
   "bdIT< SM+L SCRIPT CH&ACT,-18B0!bαc1!bαc2!bαc3!bαc4!bαc5!bαc6!bαc7!bαc8!bαc9!bαcA!bαcB!bαcC!bα",
   "cD!bαcE!bαcF!bαdC0!bαc1!bαc2!bαc3!bαc4!bαc5!bαc6!bαc7!bαc8!bαc9!bαcA!bαcB!bαcC!bαcD0bζpFILL,",
   "yM, CURRENCYε RIELuD#,Ok*DEPENDΔ VOWEL LYaYdQAAbIbQbUcEbIaIcOO TYPE ;EdTWOlUaKbUaVeRYaYvμBAcC|",
   "bOcOcDAbOcHAcK|bOcOcLAbOcMOcNGOcNOcObYOdPHAbOcOcQAcROcS|cSOdT|bOcObTHAbOeVOcYOjSIGN AHSDA",
   "eTTHAC<hVAKRAHAS<YAnB<TOCeRIYOOS<iTHAMASATjEYY+gCAMNUC PII KUUHoOENGfKAKABATgH<dOOMUUTh.K TOO",
   "hMUUSIKATO<lNIKAHIThPHNAEK MU<lREAHMUKgOBATfSAMYOK S<NYAnTO<DAKHIATkRIISAPhVIRIAMgYUUK+EAP*TU",
   "rYMBOL BEI KOETeROCgU; KOETeROCiDAP KOETeROCe-BEI KOETeROCgU; KOETeROCiMUOY KOETeROCiPII KOET",
   "eROCgRAM KOETeROCm.K ATTAK BEIcU;eMUOYePIIcRAMa-BEIcU;eMUOYePIIiS;nMUOY KOETeROCiPATHAMASAT",
   "jII KOETeROCgRAM KOETeROCe-BEI KOETeROCgU; KOETeROCiMUOY KOETeROCiPII KOETeROCmTUTEYASAT",
   "qVOWEL *H,Δ AAbQlSIGN AAbEbIbUcEbIaEbIcOEbOcUaAbUcYaAbYrOJKI ABBREVIATI;~rD<DAeOUB. D<DAfSECκ",
   "tμAaAbIbUcBAbBAcHAdC|dDAbDAbDAcHAdHAdEbGAbGAcHAdHAcIbJAbJAdK|dLAbLAdMAcNAbGAcNAcYAdObP|dRAcSA",
   "cT|cT|eUbVAcYAjSECκlIGN <USV&AiNUKTAfSHADDAfUKUNfVIRAMAlVOWEL~ AAbIbUcEbIaIcObUmWORD SEP&ATOR",
   "tUDAWADI D#,OkμAaAbIbUcBAbBAcHAdC|dDAbDAbDAcHAdHAdEbGAbGAcHAdHAcIaIcJ|cJAdK|dLAcMAcNAbGAcNAcYA",
   "dObP|dRAbRAdS|dT|cT|eUaUcVAcYAjSIGN <USV&AiNUKTAfVIRAMAlVOWEL~ AAbIbUcEbIaIcObUaUwIM;OeP~gSS",
   "_M&KfΨCAT FACE %CLOSπEYESzFACE_%CLOSπEYESlSMILΨEYESbcTEcWIFRUITiNEELΨP,S;nOTdO+AdRE< ST<D&Dε",
   "vR;OSgL B B&εnAB COATfELdCROSSE STICK <D B+LvDD,dY BEET.jNGUAGE TAGkO C<CELLAκrD#,OkELLIPSIS",
   "iHO MOcNOfKO LAfμBOcCOcDOcFO FAYc;dSUNGeTAMgHO SUNGeTAMgKHMU GOcNYOgO SUNGeTAMgOcLO_L*GdOOThMO",
   "cNGOcObYOdObP+I BHAdCHAdDD|dHAdGHAdJHAdLLAdNNAcYAdTT|iHO SUNGeTAMgOcROcS<SKRIT SHAcSAlO SUNG",
   "eTAMgTHO SUNGeTAMgOcWOcYOjNIGGAHITAjSEMIVOWEL~ LOcNYOrIGN P+I VIRAMAqT;E MAI CATAWAgEKcTHOcI",
   "lVOWEL~ AaAbIbMbYcEaIcIaIcMAI K<c;hObUaUcYaYpRGE BLUE CIRC.gDIAM;DhSQU&EkROWN CIRC.gSQU&E",
   "mCIRC.gDOWN TACKjGREEN CIRC.gSQU&Em.FT TRI<G. OP,ATORw;E DOT OV, TWO DOTS PUNCTUATI;",
   "bdRΨOV, TWO R*GS PUNCTUATI;biR<GE CIRC.gDIAM;DhSQU&EnPURP. CIRC.gSQU&EnRπCIRC.gSQU&E",
   "kTRIP. χB& OP,ATORbbWO DOTS OV, ;E DOT PUNCTUATI;bdR*GS OV, ;E RΨPUNCTUATI;bjUP TACK",
   "hYELLOW CIRC.gSQU&EoR TH<_OR EQU+ TOuI~hST QU&T, MO;_SYMBOLg%FACEzT* CAPIT+ μA_%ACUTEfBREVE",
   "_<D ACUTEfDOT δjGRAVEfΞ:kTILDEpC&;eIRCUMF.X_<D ACUTEfDOT δjGRAVEfΞ:kTILDEuDIA,ESIS_<D MACR;",
   "tOT:_<D MACR;qδhUB. GRAVEmGRAVEfΞ:k*V,TπBREVEoMACR;gOG;EKgR*G:_<D ACUTEpδkηgTILDElAbE_%ACUTE",
   "fMACR;nFRIC< DiLPHAeNGLIC<A WkObUbV_%υ B&vYcB_%DOT:fδjFLOURISHiΞeL*E δkηgTOPB&mETAdROKEN LiC",
   "_%ACUTEfB&dC&;eEDILLA_<D ACUTEqIRCUMF.XkDOT:jΞeP+AT+ ΞmηmHIcLOSπ*SUL& Gp;cUATRILLO_%COMMAuD",
   "_%C&;eEDILLAgIRCUMF.X δqDOT:fδjΞeL*E δkSHORT η OV,LAYtM+L μZ_%C&;yTROKEgTOPB&mZ_%C&;nE_%ACUTE",
   "fBREVEfC&;eEDILLA_<D BREVEqIRCUMF.X_<D ACUTEfDOT δjGRAVEfΞ:kTILDEjδqDIA,ESISiOT:fδhUB. GRAVE",
   "mGRAVEfΞ:k*V,TπBREVEoMACR;_<D ACUTEfGRAVEqOG;EKgηgTILDE_δrGYPTOLOGIC+ A*c.FrNGcSHcTaHcZH",
   "_REV,SEDi%C&;oF_%DOT:jΞeηnG_%ACUTEfBREVEfC&;eEDILLAgIRCUMF.XkDOT:jΞeMACR;gOBLIQUE ηoηmAMMAeHA",
   "cLOTT+ AbIbSTOPeUjH_%BREVE δlC&;eEDILLAgIRCUMF.XkDESCEND,iIA,ESISiOT:fδjΞeηm+F HfENGdWAIRfI",
   "_%ACUTEfBREVEfC&;eIRCUMF.XkDIA,ESIS_<D ACUTEsOT:fδhUB. GRAVEmGRAVEfΞ:k*V,TπBREVEoMACR;gOG;EKgη",
   "gTILDE_δrNSUL& DbFbGbRbSbTiOTAdScJ_%CIRCUMF.XjROSSED-TAILmηnK_%ACUTEfC&;eEDILLAhDESCEND,",
   "iIAG;+ ηoOT δjΞeL*E δkOBLIQUE ηoη_<D DIAG;+ ηbhL_%ACUTEfB&cELTeC&;eEDILLAgIRCUMF.X δqDOT δ",
   "_<D MACR;sUB. B&kHIGH ηlL*E δkΛDOTdTILDEmSM+L μJnTROKEmJcM_%ACUTEfDOT:fδjΞkIDD. SCOTS S",
   "i-WELSH LLcVoN_%ACUTEfC&;eEDILLAgIRCUMF.X δqDESCEND,iOT:fδjGRAVEf.FT Ξi*E δj;G R^ .GoOBLIQUE η",
   "oSM+L μJoTILDElJcO_%ACUTEfBREVEfC&;eIRCUMF.X_<D ACUTEfDOT δjGRAVEfΞ:kTILDEuDIA,ESIS_<D MACR;",
   "tOT:_<D MACR;qδhUB. ACUTEfGRAVEmGRAVEfΞ:iRN_<D ACUTEfDOT δjGRAVEfΞ:kTILDEo*V,TπBREVE",
   "oL;G η OV,LAYrOPeMACR;_<D ACUTEfGRAVEpIDD. TILDEmOG;EK_<D MACR;rη_<D ACUTEqTILDE_<D ACUTE",
   "fDIA,ESISjMACR;wIbLD POLISH OlMEGAeObPEN EbOfUcP_%ACUTEfDOT:jFLOURISHiΞeSQUIRREL TAILmTROKE",
   "_THROUGH DESCEND,bfQ_%DIAG;+ ηpη THROUGH DESCEND,bfR_ROTUNDAh%ACUTEfC&;eEDILLAhDOT:fδ_<D MACR;",
   "sUB. GRAVEm*V,TπBREVEoL*E δkOBLIQUE ηoηgTAILkEV,SπC %DOTkEbH+F HgOPEN EoUM ROTUNDAlS_%ACUTE",
   "_<D DOT:tC&;_<D DOT:sEDILLAgIRCUMF.XjOMMA δlDOT:fδ_<D DOT:xΞeOBLIQUE ηoSHORT η OV,LAY",
   "tWASH TAILq+TILLOhCHWAdRIPT GhH&P SgIGMOID SiM+L CAPIT+ IjQ %Ξ TAILwT_%C&;eEDILLAgIRCUMF.X δ",
   "pOMMA δlDIAG;+ ηoOT:fδjΞeL*E δkRETROF.X ΞoηmHORN_%η_THROUGH DESCEND,bi;E FIVEeSIXdTWOhRESILLO",
   "hURNπAaLPHAfHb*SUL& GjKbLbMbTbVhZcU_B&d%ACUTEfBREVEfC&;eIRCUMF.X_δqDIA,ESIS_<D ACUTEfC&;fGRAVE",
   "fMACR;kδoOT δhUB. ACUTEfGRAVEmGRAVEfΞ:iRN_<D ACUTEfDOT δjGRAVEfΞ:kTILDEo*V,TπBREVEoMACR;",
   "_<D DIA,ESISuOG;EKgR*G:kηgTILDE_<D ACUTEjδrPSIL;hV_%DIAG;+ ηoOT δjΞeTILDElENDdISIGOTHIC Z",
   "lOLAPUK AEcOEcUEjYcW_%ACUTEfCIRCUMF.XkDIA,ESISiOT:fδjGRAVEfΞkYNNeX_%DIA,ESISiOT:qY_%ACUTE",
   "fCIRCUMF.XkDIA,ESISiOT:fδjGRAVEfΞa:kLOOPeMACR;gηgTILDElOGHeZ_%ACUTEfC&;eIRCUMF.XkDESCEND,iOT:",
   "fδjΞeL*E δkP+AT+ ΞmηfWASH TAILxIGATURE IJcOEsROSSfEPIGRAPHIC μ&CHAIC MjI L;GAgNV,TπMkREV,SπFbP",
   "kSIDEWAYS IbcμA*cLVEOL& CLICKoBIDΔ+ P,CUSSIVErLABI+ CLICKfP,CUSSIVEtDΔ+ CLICKmGLOTT+ STOP_%η",
   "y*V,TπGLOTT+ STOP_%CURLeηbhLAT,+ CLICKnPH&YNGE+ VOICπFRICATIVEbbRETROF.X CLICK_%RETROF.X Ξ",
   "bhV,SπESH LOOPiGLOTT+ STOP %ηbhS*OLOGIC+ DOToM+L CAPIT+ AaEcBa&RπBiCbDbEaTHcZHdFbG_%ΞlHbI",
   "aNV,TπRkJbKbL_%BELTeηnMbNbOaEbPEN OfUcPbQbR_%R^ .GpEV,SπNbRjUMdSbTaURNπEbGbKbMbRiUbVbWbYbZ",
   "oTRETCHπC_%CURLvTWO %ηpVOICπL&YNGE+ SPIR<TyWYNNeYRjSM+L CAPIT+ μI %ηnU %ηbcμA_REV,SED-SCHWA",
   "o%ACUTEfBREVE_<D ACUTEfDOT δjGRAVEfΞ:kTILDEpC&;eIRCUMF.X_<D ACUTEfDOT δjGRAVEfΞ:kTILDE",
   "uDIA,ESIS_<D MACR;tOT:_<D MACR;qδhUB. GRAVEmGRAVEfΞ:k*V,TπBREVEoMACR;gOG;EKgRETROF.X Ξ",
   "n^ H+F R*GnNG:_<D ACUTEpδkηgTILDElAbE_%ACUTEfMACR;nLPHA_%RETROF.X ΞyNGLIC<A WkObUbV_%υ B&vYcB",
   "_%DOT:fδjFLOURISHiΞeL*E δkΛTILDEmP+AT+ ΞmηgTOPB&m&Rπ+PHAfEbOgSEL*E ESHlETAdLACKμEbO_%η",
   "yOTTOM H+F OmROKEN LiC_%ACUTEfB&dC&;eEDILLA_<D ACUTEqIRCUMF.XjURLeDOT:jΞeP+AT+ ΞmRETROF.X Ξoη",
   "mHI_%LOW .FT S,IFkR^ R*GwLOSπ*SUL& GjOMEGAePEN EgREV,SπOPEN Ev;cUATRILLO_%COMMAuD_%C&;eEDILLA",
   "gIRCUMF.X δpURLeDOT:fδjΞ_<D TAILnL*E δkΛTILDEmP+AT+ ΞmSHORT η OV,LAYtTROKEgTAILdOPB&mB DIGRAPH",
   "jELTAdZH DIGRAPH_%P+AT+ ΞmRETROF.X ΞbfOT.SS IbJ_%η_<D ΞbcUB. R_%CROSSED-TAILtTHORNfWYNNkUMcZ",
   "_DIGRAPH_%CURLeRETROF.X Ξbb%C&;nE_%ACUTEfBREVEfC&;eEDILLA_<D BREVEqIRCUMF.X_<D ACUTEfDOT δ",
   "jGRAVEfΞ:kTILDEjδqDIA,ESISiOT:fδhUB. GRAVEmFLOURISHiGRAVEfΞ:k*V,TπBREVEoMACR;_<D ACUTEfGRAVE",
   "qNOTCHfOG;EKgRETROF.X ΞoηgTILDE_δrGYPTOLOGIC+ A*c.FrNG_%CROSSED-TAILmP+AT+ ΞuSH_%CURLeΦ B&",
   "_<D CURLtP+AT+ ΞmRETROF.X ΞwTaHcZH_REV,SEDi%C&;eURLeP+AT+ ΞmRETROF.X ΞoTAILnF_%DOT:jΞeΛTILDE",
   "mP+AT+ ΞmηmENG DIGRAPH_%TRILLxG_%ACUTEfBREVEfC&;eEDILLAgIRCUMF.XkDOT:jΞeMACR;gOBLIQUE η",
   "oP+AT+ ΞmηmAMMAeHAcLOTT+ AbIbSTOPeUjH_%BREVE δlC&;eEDILLAgIRCUMF.XkDESCEND,iIA,ESISiOT:fδjΞ",
   "eL*E δkP+AT+ Ξmηm+F HfENG_%ΞnVcI_%ACUTEfBREVEfC&;eIRCUMF.XkDIA,ESIS_<D ACUTEsOT δhUB. GRAVE",
   "mGRAVEfΞ:k*V,TπBREVEoMACR;gOG;EKgRETROF.X Ξoη_<D RETROF.X ΞzTILDE_δrNSUL& DbFbGbRbSbThV,Tπ+PHA",
   "fOEkOTA_%ηnIFIπEjScJ_%C&;eIRCUMF.XjROSSED-TAILmηnK_%ACUTEfC&;eEDILLAhDESCEND,iIAG;+ ηoOT δjΞ",
   "eL*E δkOBLIQUE ηoP+AT+ Ξmη_<D DIAG;+ ηbgRAdL_%ACUTEfB&cELT_<D P+AT+ ΞvC&;eEDILLAgIRCUMF.X δ",
   "pURLeDOT δ_<D MACR;sUB. B&dΛTILDEtFISHΞiHIGH ηl*V,TπLAZY SpL*E δkΛDOTdR*GeTILDEmP+AT+ Ξ",
   "mRETROF.X Ξ_<D BELTxηmAMBDA %ηrENIS FfZH_%RETROF.X ΞxJb;G S_%DIAG;+ ηoOT:jHIGH ηwS DIGRAPHjUM",
   "cZ DIGRAPHkM_%ACUTEfCROSSED-TAILmDOT:fδjΞeΛTILDEmP+AT+ ΞsIDD. SCOTS Si-WELSH LLcVnUMdN",
   "_PRECEDπBY APOSTROPHEw%ACUTEfC&;eEDILLAgIRCUMF.X δpROSSED-TAILlURLeDESCEND,iOT:fδjGRAVEf.FT Ξ",
   "i*E δj;G R^ .GoΛTILDEmOBLIQUE ηoP+AT+ ΞmRETROF.X ΞoTILDElJbUMdO_%ACUTEfBREVEfC&;eIRCUMF.X",
   "_<D ACUTEfDOT δjGRAVEfΞ:kTILDEuDIA,ESIS_<D MACR;tOT:_<D MACR;qδhUB. ACUTEfGRAVEmGRAVEfΞ:iRN",
   "_<D ACUTEfDOT δjGRAVEfΞ:kTILDEo*V,TπBREVEoL;G η OV,LAYrOPcW RΨ*SIDEpMACR;_<D ACUTEfGRAVEqOG;EK",
   "_<D MACR;rRETROF.X Ξoη_<D ACUTEqTILDE_<D ACUTEfDIA,ESISjMACR;wIbLD POLISH OlMEGAeObPEN E",
   "_%RETROF.X ΞvO_%RETROF.X ΞoηmEgUcP_%ACUTEfDOT:jFLOURISHiΞeΛTILDEmP+AT+ ΞmSQUIRREL TAILmTROKE",
   "_THROUGH DESCEND,beHIdQ_%DIAG;+ ηpΞ_TAILjη THROUGH DESCEND,beP DIGRAPHkR_ROTUNDAh%ACUTEfC&;",
   "eEDILLAgROSSED-TAILmDOT:fδ_<D MACR;sUB. GRAVEmFISHΞ_<D ΛTILDEmP+AT+ Ξz*V,TπBREVEoL*E δj;G .G",
   "iΛTILDEmOBLIQUE ηoP+AT+ ΞmηgTAILfOUT H<D.pAMS HORNiEV,SπC_%DOTkEaNGdH+F HgKbOPEN E_%Ξ",
   "eRETROF.X ΞbaR %FISHΞpSCRIPT GqUM_ROTUNDAlS_%ACUTE_<D DOT:tC&;_<D DOT:sEDILLAgIRCUMF.XjOMMA δ",
   "kURLeDOT:fδ_<D DOT:xΞeΛTILDEmOBLIQUE ηoP+AT+ ΞmSHORT η OV,LAYtWASH TAILqAKHA YAThLTILLOhCHWA",
   "_%ΞeRETROF.X ΞxRIPT G_%CROSSED-TAILtR_%R*GrH&P SgIDEWAYS DIA,ESIZπUnO_%ηmPEN OgTURNπMiU",
   "iGMOID SiQUAT REV,SπESHrTIRRUP RjT_%C&;eEDILLAgIRCUMF.X δpOMMA δkURLeDIA,ESISgG;+ ηoOT:fδjΞ",
   "_<D RETROF.X ΞxL*E δkΛTILDEmP+AT+ ΞmRETROF.X ΞoηmAIL.SS PHIlC DIGRAPH %CURLtESH DIGRAPH",
   "_%P+AT+ ΞmRETROF.X ΞbfH %STRIKETHROUGHtORN_%η_THROUGH DESCEND,bi;E FIVEeSIXdTWOgP H+F O",
   "jRESILLOhS DIGRAPH_%RETROF.X ΞbdUMbRNπAaEbLPHAfDELTAfEbGbH_%FISHΞ_<D TAILyIaNSUL& GjKbLbM",
   "_%L;G .GpO OPEN-O_%ηtE_%υ ηrηnPEN EgR_%ΞeL;G .G_<D RETROF.X ΞbbΛTILDEmP+AT+ ΞmTAILlT_%CURLlUI",
   "cVbWbY_%BELTrZcU_B&_%SHORT R^ .Gy%ACUTEfBREVEfC&;eIRCUMF.X_δqDIA,ESIS_<D ACUTEfC&;fGRAVEfMACR;",
   "kδoOT δhUB. ACUTEfGRAVEmGRAVEfΞ:iRN_<D ACUTEfDOT δjGRAVEfΞ:kTILDEo*V,TπBREVEo.FT ΞjMACR;",
   "_<D DIA,ESISuOG;EKgRETROF.X Ξn*G:kSHORT R^ .GoTROKEgTILDE_<D ACUTEjδrEbIbMbObPSIL;_%ηtV_%CURL",
   "eDIAG;+ ηoOT δjΞeP+AT+ ΞmR^ ΞkTILDElENDdISIGOTHIC ZlOLAPUK AEcOEcUEjYcW_%ACUTEfCIRCUMF.X",
   "kDIA,ESISiOT:fδjGRAVEfΞeR*G:rX_%DIA,ESISiOT:jL;G .FT .G_<D LOW R^ R*Gs%S,IFwW R^ R*GoP+AT+ ΞtY",
   "_%ACUTEfCIRCUMF.XkDIA,ESISiOT:fδjGRAVEfΞa:kLOOPeMACR;gR*G:kSHORT R^ .GoTROKEgTILDElOGHeZ",
   "_%ACUTEfC&;eIRCUMF.XjURLeDESCEND,iOT:fδjΞeL*E δkΛTILDEmP+AT+ ΞmRETROF.X ΞoηfWASH TAIL",
   "xIGATURE FFaIbLcIbLcIJcL;G S TiOEcSTqUBSCRIPT SM+L μAbEbHbIbJbKbLbMbNbObPbRbSaCHWAfTbUbVbX",
   "bdEAF FLUTT,Ψ* W*DtY GREENjDG,eFT <D LOW, <D R^ TRI<GUL& THREE QU&T,S BLOCKbp;E E^H BLOCK",
   "wR^ Φ TURNSTI.qTACKdRI<GUL& H+F BLOCKbbUPP, <D R^ TRI<GUL& THREE QU&T,S BLOCKbp;E E^H BLOCK",
   "yG, BUBB.j.θ_%DOTvRC .SS-TH<θtROW %CIRC.D PLUSmSM+L CIRC.xB&B DOWN R^ B&B DOWN H&PO;mUP H&PO;",
   "baUP R^ B&B DOWN H&PO;mUP H&PO;bcLACK .NTICUL&θsTORTOISE SHELLθbcCEIL*GgLOSπΔRYlORN,θnURLYθ",
   "_LOW, ΞkΛPIECEmUPP, ΞyDOTTπSUBSTITUTI;θzUB. <G.θnP&ΔHESISlQUOTAκoWIGGLY FENCEtFISH TAIL",
   "hVE E^HS BLOCKrLOORfH+F BLACK CIRC.gST&iOCKfCIRC._%DOTdFOUR DOTSjTHREE DOTSjWO DOTSuFOLD,",
   "g*V,SE MEDIUM SHADE <D R^ H+F BLOCKbpMEDIUM SHADEmRUNNΨM<oND TE.PH;E RECEIV,xLOW P&APHRASEθ",
   "vUGGAGEhMULTIMAPiNORM+ FACTOR SEMIDIRECT PRODUCTbg;E E^H BLOCKmQU&T, BLOCKqUT, JO*kP&ΔHESIS",
   "_EXTENSI;jLOW, ΞkUPP, ΞwRAISπOMISSI;θw^>_THROUGH SM+L CIRC.u%Φ χηwηgχηbaBLACK>lΦ>_%ηgχη",
   "bhOPEN-HEADED>rS<S-S,IF>qTRI<G.-HEADED>vWAVE>jHITE>rS-SHAPπBAG DELIMIT,vEMIDIRECT PRODUCT",
   "qVEN E^HS BLOCKsIDEWAYS UθqNG. QUOTAκuPEECH BUBB.mQU&Eθ_EXTENSI;jLOW, CORN,mUPP, CORN,m%Φ η",
   "nQUILLfηgTICK * BOTTOM CORN,nTOP CORN,sUND,B&bbUBSTITUTI;θuTACKdHIRD WHITE R^ PO*TΨ*DEX",
   "beOUGHT BUBB.mREE E^HS BLOCKnQU&T,S BLOCKtORTOISE SHELLθvR<SPOSITI;θtI<G. BESIDE χB&",
   "wUL& ;E QU&T, BLOCKbcχB& %QUILLnOX L*ErWHITE CORN,θnURLYθn.NTICUL&θsP&ΔHESISlSQU&Eθ",
   "oTORTOISE SHELLθbbIGGLY FENCElRITΨH<Dn-FACΨ&MENI< ET,NITY~wFISTeSVASTI~_%DOTS",
   "bcH<Dπ*T,LACπPΔAGRAMbbPO*TΨ<G.θnCURVπ<G.θuΦ <G. QUOTAκbbMAGNIFYΨGLASSzSHADπWHITE R^W&DS>",
   "bcIDE &C <TICLOCKWISE>bcTO-R^ EMBEDD*GjISOLATEhM&KeOV,RIDEsW&DS>a: +MOST EQU+ TO",
   "pREV,SE +MOST EQU+ TOpTILDE OP,ATORwSHORT R^W&DS>wTILDE OP,ATORtND UPP, <D LOW, ;E E^H BLOCK",
   "bkFROM B&_TO BLACK DIAM;DzOV, R^W&DS>vTHROUGH .SS-TH<jSUBSETgXiO B&_OV, R^W&DS> TO B&",
   "bfLACK DIAM;Dq%DOTTπSTEMjUB. χηwEQUILAT,+>HEADvΞeL&GE TRI<G.>HEADxOOPeMEDIUM TRI<G.>HEAD",
   "zNOTCHπTAILmPLUS δkSM+L EQUILAT,+>HEADvTRI<G.>HEADxTROKEgTAIL_%Φ χηwχηyIP DOWNW&DSjUPW&DSlχη",
   "v-TAILkBACK-TILTπSHADOWπWHITE>bfLACK>fCIRC.D WHITE>yOTTOM-SHADπWHITE>zCOMPRESSED>qDASHED>",
   "lOUB.>_FROM B&i%ηgχηv-TAILkDASH>rF*G,-POST>qR;T-TILTπSHADOWπWHITE>bhH<DcRPO; OV, R^W&DS H&PO;",
   "x%B&B DOWN: R^W&DS H&PO; %B&B DOWNbnδ L;G DASHpFROM B&iTO B&hW&DSjUP: .FTW&DS H&PO; %B&B DOWN",
   "bf;G DASHjR^W&DS H&PO; %B&B UPblFROM B&iTO B&hW&DSyEAVY>fCOMPRESSED>w.FT-SHADπWHITE>",
   "xOPEN-HEADED>rPAIRED>SnQUADRUP.>pR^-SHADπWHITE>xOCKETgS<S-S,IF>pQU&ED>kIGG.>oTOP SHADπWHITE>",
   "vRI<G.>HEADk-HEADED>_OV, R^W&DS TRI<G.-HEADED>blTO B&g%BOLD SHAFTkΦ υ ηrχηwHEAVY SHAFT",
   "lL;G TIP DOWNW&DSjUPW&DSqMEDIUM SHAFTmN&ROW SHAFTmV,Y HEAVY SHAFTbbDASHED>mPAIRED>SbaP.>fDASH>",
   "qWO HEADED>n-HEADED> FROM B&i%Φ χηwTAIL_%Φ χηwχηyRI<G.>HEADStχηbaTRIP. DASH>bcWAVE>jHITE>",
   "_WITH* TRI<G.>HEADbtGbM;dOaP&DfPCHA C;S;<T~ Ka<GeLbMbNaY*-DOhPbRbTqD#,OkμAbBAbLAdC|dDAbDAcZA",
   "dFAbLAdGAbLAdHAbLAdJAcK|cLAdLAcMAbLAdNAbGAcYAdP|cLAdRAcS|dT|cS|dT|eVAcWAcYAjPUNCTUATI; C,-WA",
   "gNYET THYOOM TA-ROLsTA-ROLfSΞ_C,-WAzSIGN NUKTAfR<hUBJO*πμRAcYAtVOWEL~ AAcEbIbOaOcUaU",
   "sSS-TH<: Φ-L*E EQU+: GREAT,-TH<bkGREAT,-TH<: Φ-L*E EQU+bk.FTW&DS>pSIMIL&: GREAT,-TH<sOR EQU+",
   "pL<TπEQU+: GREAT,-TH<: SL<TπEQU+cfND NOT APPROXIMATEpS*G.-L*E NOT EQU+ TObcBUT NOT EQU+ TO",
   "fIV+Δ TOvCLOSπBY CURVEa: SL<TπEQU+bjEQU+ TO OR GREAT,-TH<yOR APPROXIMATElEQU+ TOfIV+Δ TO",
   "nGREAT,-TH<mSL<TπEQU+ TO_%DOT:_R^l*SIDEbiV, EQU+ TOnSIGNe%CIRC. *SIDEnDOTdQUESκ:bgVEL SLID,lF",
   "bIBRAdGATURE OPEN ET ORNAMΔwHT CHECK M&KkE^ SPOKπAST,ISKvFIVE PO*TπBLACK ST&sSPOKπAST,ISK",
   "tOUR PO*TπBLACK CUSPeST&xGREEK CROSSl.FT TORTOISE SHELLθ ORNAMΔbkRAILd^ TORTOISE SHELLθ ORNAMΔ",
   "blS+TIREgHADEeIX SPOKπAST,ISKtTHREE PO*TπBLACK ST&xWELVE PO*TπBLACK ST&zχB&mWHITE SQU&EnN*G",
   "_MOOD_BUBB.tMBU D#,OkEXCLAMAκqμB|dC|dD|dG|cY<eHAcJ|dK|dLAcMAcNAbGAdP|dRAcS|cSAdT|cRAdWAcYAaN",
   "kQUESκnSIGN KEMPHRENGjLOOdMUKPHRENGjSA-IiM+L μ<USV&AiKAcLAcMAcNAbGAdPAcRAcTAoUBJO*πμRAcWAcYA",
   "tVOWEL~ AaIbUcΩaOcUh-C&RI, .TT,xITπLIABILITY~uNE FEEDe*TEGRATI; NOT *CLUDΨTHE PO.",
   "w%RECT<GUL& PATH &OUND PO.bcSEMICIRCUL& PATH &OUND PO.buSEP&ATORjTABULATI;_SETp& A~ A028B",
   "e100-102g20Bd31Ce30ζb6b7b8b9AbBbCd10b1b2b3AbBbCc4b5b6b7b8b9c2!c3!c4!c5!c6!c70b1d400-VASf1-VAS",
   "f2-VASf3-VASf4-VASf5-VASf6-VASf7-VASf8-VASf9-VASg10-VASf1-VASf2-VASf3-VASf4-VASf5-VASf6-VAS",
   "f7-VASf8-VASh50ζb6b8b9c10b1b2b3b5b6c20b1b3b4b5b6b7b8b9c30b1b2b4b5b6b7b8b9c40b1b2b5b7b8b9c50bζ",
   "b6b7b9c63b4b5b6b8b9c7!c8!c91b2b4b5b6b8d600b1b2b3b4b6b8b9c1!c20b1b2b3b4b6b7b8b9c34b7b8c40b2b3b4",
   "b5b6b8b9c5ζb6b7b8b9c60b1b2b3b4d701 Ad2 Bd3 Dd4 Ed5 Fd6 Hd7 Jd8 Kd9 Lc-2 L2e3 L3e4 L4e6 L6h10 W",
   "d1 Xd2 Yd3 OMEGAh4 ABBf5 BBe7 DDf26 EYYYh32 JEg800bζb6b7dB00ζb6b7b8b9c10b1b3b6b7c20b1aFbMc2aF",
   "bMc3aMc4b6b7b8b9c30b1b4b7b8b9c40b1b4b5b6b7b8b9c50b1b3b4b5b6b7b8b9c60b1b5b6b7b9c70b3b4b6b7b8b9",
   "c80b1b2b5b6b7d118c20b2b3c31AbBd64c71c80b8c91mB IDEOGRAM B100 M<f2 WOM<h4 DE,g5 EQUIDgF M&E",
   "gM ST+LI;l6F EWEfM RAMg7F SHE-GOATkM HE-GOATk8F SOWfM BO&h9F COWfM BULLi20 WHEATh1 B&.Y",
   "i2 OLIVEh3 SPICEh5 CYP,USk30 OILf1 W*Eg2c40 BR;ZEi1 GOLDg2b5 WOOLg6c50b1 HORNg2b3b4b7b8",
   "b9 CLOTHi60b1b2 G&MΔj3 &MOURi4b5b6b7b8b9c70b1b2b3 M;THh4b6 TREEg7b8b9c80bζb9c90b1 HELMET",
   "k220 FOOTSTOOLl5 BATHTUBk30 SPE&h1>h2b3 SWORDh4b6c40 WHEE.D CH&IOTr1 CH&IOTj2 CH&IOT FRAME",
   "p3 WHEELh5b6b8b9c51b2b3b4 D&Tg5b6b7b8b9eVESSEL B155d20!c1!c21b2b6b7b8b9c50d305",
   "uM;OGRAM B127 KAPOg8 K<AKOj33 &EPAh5 M,Ih56 TURO2j247 DIPTEtSYLLAB. B001 DAe2 ROe3 PAe4 TE",
   "e5 TOe6 NAe7 DIe8 Ad9 SEf10 Ud1 POe2 SOe3 MEe4 DOe5 MOe6 QAe7 ZAf20 ZOe1 QIe3 MUe4 NEe5 A2",
   "e6 RUe7 REe8 Id9 PU2g30 NIe1 SAe2 QOe3 RA3f6 JOe7 TIe8 Ed9 PIf40 WIe1 SIe2 WOe3 A3e4 KEe5 DE",
   "e6 JEe8 NWAg50 PUe1 DUe2 NOe3 RIe4 WAe5 NUe7 JAe8 SUe9 TAf60 RAe1 Od2 PTEf5 JUe6 TA2f7 KI",
   "e8 RO2f9 TUf70 KOe1 DWEf2 PEe3 MIe4 ZEe5 WEe6 RA2f7 KAe8 QEf80 MAe1 KUe5 AUe7 TWEg90 DWOf1 TWO",
   "pMBOL B018b9c22c34c47b9c56c63b4c79c82b3b6b9rKεhπPAP,CLIPSp; FACEhPSaTICKgRA~hSU μAaEcBAcC|dDA",
   "bZAdEaUcFAcG|dH|dIbJAcK|dLAcMAcNAbGAdOaEcP|dS|dT|c;E MYA BOcCYAdJEUdNAcTIgNA POjS|eUaEbHcWAcXA",
   "cY|dZ|kPUNCTUATI; COMMAfFULL STOPyVRE TOURNOIS~rZ&DfLAMAeOBST,fCK_%*K PENn*G-SHIFT ;EdZ,O",
   "qGIC+ <D_%DOT:hUB. OV,B&hUND,B&pυ DASHpΛSTEMlUND,B&rOR_OV,LAPPΨLOGIC+ <Dx%DOT:hUB. OV,B&",
   "hUND,B&pυ DASHpΛSTEMzLLIPOPgNG DASH FROM .FT MEMB, OF Φ V,TIC+bnIVISI;hRUMe.FT R^>fΦ>sTACK",
   "fW&DS>_FROM B&oΦ>_FROM B&vSQUIGG.>yR^ TACKfW&DS>_FROM B&oΦ>_FROM B&vSQUIGG.>bcTI; BOTT.kUS",
   "dUDLY CRYΨFACEqVE HOTELf.TT,jW AST,ISKiBATT,YgR^NESSεrΦ PRIME QUOTAκbbKAVYKA_%DOTpL*E",
   "f, BLADE SCISSORSoFIVE E^HS BLOCKsH+F BLOCKfCIRC.g*V,SE WHITE CIRC.uMEDIUM SHADE",
   "r.FT B+LPO*T PENmLOCK DIAG;+ LOW, Λ.FT TO LOW, CΔREgR^bgUPP, CΔRE TO LOW, ΛR^mR^lUPP, ΛR^",
   "bc.FT TO LOW, CΔREgΛR^sUPP, ΛR^baΛ.FT TO LOW, CΔREgΛR^mR^bvCRAY;gFOUNTA* PENmPA*TBRUSHjENCIL",
   "gQUADR<T CIRCUL& &CvSEMICIRCUL& <TICLOCKWISE>bgTRI<G.cUL& MEDIUM SHADEbc;E E^H BLOCK",
   "mQU&T, BLOCKrR^ BLOCK DIAG;+ LOW, CΔRE TO LOW, ΛR^sUPP, ΛR^mR^v.FT TO LOW, ΛR^sUPP, CΔREgΛR^",
   "baΛ.FT TO UPP, CΔREgΛR^mR^bgUPP, Λ.FT TO UPP, CΔREgR^bvCORN, %DOTpDROP-SHADOWπWHITE SQU&E",
   "baPENCILgQUADR<T CIRCUL& &CvSEMICIRCUL& CLOCKWISE>bbHADOWπWHITE CIRC.gSQU&EvTRI<G.",
   "cUL& MEDIUM SHADEbdSEVEN E^HS BLOCKtTHREE E^HS BLOCKnQU&T,S BLOCKtRI<GUL& ;E QU&T, BLOCK",
   "bgZENGE_DIVIDπBY υ RU.bhREbIbMbOcUGGAGEfNGSeYCI< μAaNcBaHcDbEaNcGbHbIbJbKaKcLbMaMcNaNcPbQbRbS",
   "bTaHbTcUbWbXbZnDI< μAaNcBbCbDbEaNcFbGbIbKbLaYcMbNaNcObQbRbSaScTaTcUbVbYiTRI<GUL& M&KuΨFACE",
   "kMACR;eGEbIC W<DhNETeHAJ<I ABBREVIATI;~rμAbB|dC|dDAbD|dHAdEbG|dHAcIbJ|dK|dLAcMAcNAbNAcYAdObP|",
   "dRAbRAdSAcT|cT|eUbVAiIGATURE SHRInSECκlIGN NUKTAqJ;G TI. AUTUMNgBACKcMBOOgCHRYS<THEMUM",
   "nEAST W*Di^ OF BAMBOOShCH&ACT,SjIRC.SqFIVE OF BAMBOOShCH&ACT,SjIRC.SoOUR OF BAMBOOShCH&ACT,S",
   "jIRC.SpGREEN DRAG;mJOK,fN*E OF BAMBOOShCH&ACT,SjIRC.SoORTH W*Dk;E OF BAMBOOShCH&ACT,SjIRC.S",
   "nRCHIDgPLUMeRπDRAG;kSEVEN OF BAMBOOShCH&ACT,SjIRC.SpIX OF BAMBOOShCH&ACT,SjIRC.SnOUTH W*DjPR*G",
   "fUMM,gTHREE OF BAMBOOShCH&ACT,SjIRC.SpWO OF BAMBOOShCH&ACT,SjIRC.SoWEST W*DiHITE DRAG;l*T,",
   "rKAS& <GKAfEND OF SECTI;oμAbBAcCAcDAcGAcJAcKAcLAcMAcNAbGAcYAdPAcRAcSAcTAcVAcYAjPASSIMB<G",
   "kVOWEL~ EbIbObUsLAY+AM AU .NGTH M&KoDATE M&Ki#,OkFRACTI; ;E E^HgFIFTHeORTIETHiH+F",
   "e;E-φ-<D-SIXTIETHyQU&T,hSIXTEΔHjTΔHeWΔIETHnTHREE E^IETHSkQU&T,SiSIXTEΔHSkTWΔIETHSzμAaAbI",
   "bRCHAIC IIjUcB|dC|bILLU KbLaLaLdMbNaNcRRcYiDAbD|dHAcOT REPHiEaEcG|dHAcIaIcJ|dK|dLAbLAbLAeMAcNA",
   "bGAcNAbNAdYAdOaOcP|dRAbRAdS|cSAdT|cT|cTAeUaUcVAbEDIC <USV&AnOC+IC LaLcRaRkYAjNUMB, ;E φhξmTEN",
   "kSIGN <USV&AhVAGRAHAiC<DRAB*DUkIRCUL& VIRAMAoOMB*Ψ<USV&A:yP&AeχB& VIRAMAsIRAMAeS&GAmVOWEL~ AA",
   "bIbUcEaEcIaIcOaOcUaUcVOC+IC LaLcRaRbcE <D FEM+E~pSIGNe%η <D M+E <D FEM+E~ySIGNsTESE CROSS",
   "lMMOTHfN_<D WOM< HOLDΨH<DSxD<C*Gh* BUS*ESS SUIT .VITAT*GyTUXEDOj%GUA PI MAOkTURB<mAT~",
   "hDAIC AFFRICAκqGEM*AκpμABbDbGbHb*cKaSAdLbMbNbPbQbRbSaHbZcTaTcZcDUSHENNAiH+QAf*bTcKADdUSHENNA",
   "oPUNCTUATI;lVOC+IZAκwGOcICHAE< ABBREVIAκ:fδxμAAY*e.PHeY*eBETHdHETHfD+ETHfHAMEDHhFEcGHIMELfIMEL",
   "fHEaTHeJAY*eHAY*gKAPHdHAPHfLAMEDHgMEMdNUNdPEcQHOPHeOPHeRESHeSADHEdMEKHfH*dSH*fTAWcETHdHAMEDH",
   "hWAWdXAPHdOPHeYODHeZAY*eHAY*nNUMB, FIVEe;E_φlTENcWΔYnPUNCTUATI; DOT_WITH* DOT",
   "mUB. DOT WITH* DOTvF.UR;hL*E FILL,lST&eTWO DOTSuSIGN UDpS SHOEgTELPIECE CLOCKoU+ WHEELCHAIR",
   "pPε FOR L^HOUSEw. .AFiRCHEN HEAD M&Kjμ-AcAbBAcC|dDAbZAdGAcHAcJAcK|dLAcMAcNAbGAcYAdP|dRAcS|dT|",
   "cS|eWAcYAcZ|kM&K SHADjSIGN <USV&AiC<DRAB*DUpUBJO*πμAbBAcC|dDAbZAdGAcHAcJAcK|dLAcMAcNAbGAcYAdP|",
   "dRAcS|dT|cS|eWAcYAcZ|uVOWEL~ AAcEbIbObUrRIAGEεmTI+ &TS UNIFORMsS&AM G;DI D#,OkμAaAbIbUcB|dC|",
   "dDAbD|dHAdEbG|dHAcIaIcJ|cNYAeK|cSSAeLAbLAdMAcNAbGAcNAcYAdObP|dRAcS|cSAdT|cRAcT|eUaUcVAcYA",
   "jRA-K&AgEPHAfSIGN <USV&AiC<DRAgH+<TAhNUKTAfVIS&GAmVIRAMAfOWEL~ AAbIbUcEbIaIcObUaUcVOC+IC R",
   "bfCUL*E ORD*+ *DICATORyK WORKεnU M&KhTE DR*KhHEMATIC+ BOLD CAPIT+ AaLPHAfBaETAeCaHIdDaELTA",
   "eIGAMMAhEaPSIL;gTAdFbλHETA_SYMBOLmUaPSIL;hVbWbXaIcYbZaETAmD#,OkEPSIL;εoFRAKTUR CAPIT+γbZjSM+Lγ",
   "bZpIT+IC CAPIT+ AaLPHAfBaETAeCaHIdDaELTAfEaPSIL;gTAdFbλHETA_SYMBOLmUaPSIL;hVbWbXaIcYbZaETA",
   "mEPSIL;εoKAPPAεmNABLAfP&TI+ DIFF,ΔI+tHIεjIεjRHOεkSM+L AaLPHAfBaETAeCaHIdDaELTAfEaPSIL;gTAdF",
   "a*+ SIGMAlλHETAfUaPSIL;hVbWbXaIcYbZaETAkTHETAεtKAPPAεmNABLAfP&TI+ DIFF,ΔI+tHIεjIεjRHOε",
   "kSCRIPT CAPIT+γbZjSM+LγbZnM+L AaLPHAfBaETAeCaHIdDaELTAeIGAMMAhEaPSIL;gTAdFa*+ SIGMAlλHETAfU",
   "aPSIL;hVbWbXaIcYbZaETAkTHETAεrΦ-STRUCK CAPIT+ AbBbDbEbFbGbIbJbKbLbMbObSbTbUbVbWbXbYjD#,OkSM+Lγ",
   "bZvF+LΨDIAG;+pRAKTUR CAPIT+ AbBbDbEbFbGbJbKbLbMbNbObPbQbSbTbUbVbWbXbYjSM+LγbZpIT+IC CAPIT+ A",
   "aLPHAfBaETAeCaHIdDaELTAfEaPSIL;gTAdFbλHETA_SYMBOLmUaPSIL;hVbWbXaIcYbZaETAmEPSIL;εoKAPPAεmNABLA",
   "fP&TI+ DIFF,ΔI+tHIεjIεjRHOεkSM+L AaLPHAfBaETAeCaHIdDaELTAeOT.SS IbJjEaPSIL;gTAdFa*+ SIGMAlG",
   "aAMMAfIaOTAeJbKaAPPAfLaAMDAfMaUcNaUcOaMEGAdICR;hPaHIcIbSIdQbRaHOdSaIGMAfTaAUcHETAfUaPSIL;hVbW",
   "bXaIcYbZaETAkTHETAεt.FT <G.θnΦ <G.θuFLATTENπP&ΔHESISvWHITE SQU&EθoTORTOISE SHELLθ",
   "bhM;OSPACE CAPIT+γbZjD#,OkSM+LγbZrR^ <G.θnΦ <G.θuFLATTENπP&ΔHESISvWHITE SQU&EθoTORTOISE SHELLθ",
   "bgSΨDIAG;+pS<S-S,IF BOLD CAPIT+ AaLPHAfBaETAeCaHIdDaELTAfEaPSIL;gTAdFbλHETA_SYMBOLmUaPSIL;hVbW",
   "bXaIcYbZaETAmD#,OkEPSIL;εoIT+IC CAPIT+ AaLPHAfBaETAeCaHIdDaELTAfEaPSIL;gTAdFbλHETA_SYMBOLmU",
   "aPSIL;hVbWbXaIcYbZaETAmEPSIL;εoKAPPAεmNABLAfP&TI+ DIFF,ΔI+tHIεjIεjRHOεkSM+L AaLPHAfBaETAeCaHI",
   "dDaELTAfEaPSIL;gTAdFa*+ SIGMAlλHETAfUaPSIL;hVbWbXaIcYbZaETAkTHETAεtKAPPAεmNABLAfP&TI+ DIFF,ΔI+",
   "tHIεjIεjRHOεkSM+L AaLPHAfBaETAeCaHIdDaELTAfEaPSIL;gTAdFa*+ SIGMAlλHETAfUaPSIL;hVbWbXaIcYbZaETA",
   "kTHETAεrCAPIT+γbZjD#,OkIT+IC CAPIT+γbZjSM+LγbZoSM+LγbZrCRIPT CAPIT+ AbCbDbGbJbKbNbObPbQbSbTbU",
   "bVbWbXbYbZjSM+L AbBbCbDbFbHbIbJbKbLbMbNbPbQbRbSbTbUbVbWbXbYbZzXIMIZEgY< NUM,+ E^aEENh.VEN",
   "gFIFTEENfVEdOURaTEENiN*EaTEENi;EdSEVENaTEENiIXaTEENhTENcHIRTEENgREEeWELVEeOdZ,OrEASURπ<G.",
   "_OPENΨ.FTm%OPEN &M ENDΨ*> PO*TΨDOWN <D .FTeR^o.FT <D DOWNeUPlR^ <D DOWNeUPmUP <D .FTeR^cfBY",
   "cR^ <G. %DOTbaT ; B;EkCH<IC+ &Md.GmDEFAIDR* CAPIT+ μAaIbTIUeBbCbDbEbFbGbHaPcIbJbKaPcLbMbNaGbY",
   "cOaEcPbQbRbSbTbUbVbWbXbYaUcZpOMMAfDIGIT E^fFIVEdOUReN*Ee;E_+T,NATE$sSEVENeIXdTHREE_+T,NATE$tWO",
   "_+T,NATE$sZ,OkEXCLAMATI; OHoFULL STOPjNUMB, E^EENh.VENgFIFTEENgOURTEENiN*ETEENiSEVΔEENiIXTEEN",
   "hTENcHIRTEENhWELVEnSM+L μAaIbTIUeBbCbDbEbFbGbHaPcIbJbKaPcLbMbNaGbYcOaEcPbQbRbSbTbUbVbWbXbYaUcZ",
   "nYMBOL AIVAuIEV+ COMMAfEXCLAMAκqQUESκsUM BLACK CIRC.lOLD WHITE CIRC.rE^ PO*TπBLACK ST&",
   "sSPOKπAST,ISKvFIVE SPOKπAST,ISKtLATTENπ.FT P&ΔHESIS ORNAMΔzR^ P&ΔHESIS ORNAMΔ",
   "bjOUR PO*TπBLACK ST&kP*WHEEL ST&baGREEK CROSSl.FT CURLYθ ORNAMΔwP&ΔHESIS ORNAMΔ",
   "v-PO*TΨ<G.θ ORNAMΔbkMATHEMATIC+ SPACEsR^ CURLYθ ORNAMΔwP&ΔHESIS ORNAMΔv-PO*TΨ<G.θ ORNAMΔ",
   "blS+TIREgHADEeIX PO*TπBLACK ST&sSPOKπAST,ISKsM+L WHITE CIRC.sTHREE PO*TπBLACK ST&kP*WHEEL ST&",
   "bbχB&mWHITE CIRC.gSQU&ErETEI MAYEK AH<G KHUDAMlNJIdPUN IYEKjCHEIKH<cEIiD#,OkμATIYAfB|MeCHAbIL",
   "eDD|dHOUdILdEbGHOUdOKdHUKdI_L;SUMiJHAMdILdKHOUdOK_L;SUMkLAI_L;SUMkMIT_L;SUMkNA_L;SUMiGOU_L;SUM",
   "kNAcYAdObPA_L;SUMiHAMeRAIdSAMcHAcSAdTHOUdIL_L;SUMjT|eUNcWAIdY<GkUM IYEKiSYLLAB. REPETIκyVIRAMA",
   "fOWEL~ AAIbUcNAPdUcCHE*APhIIbNAPeNUNGe;APeSOUNAPgUNAPdUcVIS&GAhYENAPqWORD REPETIκbfL;cTΨFACE",
   "kMOcNDE KIKAKUI COMB*ΨNUMB, HUNDRπξSkSiMILLI;SiTEENSdN ξSkSdHOUS<DSbaDIGIT E^fFIVEdOUReN*Ee;E",
   "dSEVENeIXdTHREEeWOjSYLLAB. M001 KIe2 KAe3 KUe4 WIe5 WAe6 WUe7 M*f8 M<f9 MUNg10 BIe1 BAe2 BU",
   "e3 Id4 Ad5 Ud6 DIe7 DAe8 DUe9 SIf20 SAe1 SUe2 TIe3 TAe4 TUe5 LIe6 LAe7 LUe8 JIe9 JAf30 JUe1 YI",
   "e2 YAe3 YUe4 FIe5 FAe6 FUe7 N*f8 N<f9 NUNg40 HEEf1 HAe2 HOOf3 NGGAg4 KPEEg5 WOe6 HU<g7 MBEE",
   "g8 KOe9 WVAg50 PUe1 PEe2 HENf3 H*f4 LOOf5 TEe6 GBAf7 NG;g8 NY<g9 MENg60 NY;g1 WVIf2 MBAf3 JO",
   "e4 NDOf5 KEEf6 POe7 NDOOg8 PIe9 TOf70 GBOf1 GBOOg2 MBEf3 .e4 KPUf5 FEe6 KOOf7 VOe8 FEEf9 SO",
   "f80 YEe1 PEEf2 NGGUg3 HEEIg4 .Ef5 VEe6 L;G NGGEl7 HUNf8 FOe9 DEEg90 NGGIg1 TEEf2 KPAf3 GBEE",
   "g4 M;f5 KEe6 HEe7 BEe8 NYENg9 PAg100 Ed1 F<f2 POOf3 BOOf4 TOOf5 L;G MBOOl6 L;G NGGOOm7 GBE",
   "f8 KPEf9 YEEg10 L;G .j1 GAe2 KPOOg3 JEe4 WOOf5 NGGEEh6 SEe7 NENf8 WEe9 NDEg20 NGGOg1 YOe2 MBU",
   "f3 NDIf4 GBIf5 NDUf6 WEEf7 NGGUAh8 HOOUg9 NDAg30 H<f1 *e2 KPIf3 FOOf4 NJOOg5 *e6 SOOf7 EIe8 BO",
   "e9 WVEg40 HOe1 YOOf2 L;G MBOk3 WEIf4 VOOf5 MBIf6 NGGEg7 Od8 GBUf9 NJEEh50 BEEf1 VUe2 NJAf3 LO",
   "e4 MU<g5 GIe6 NGGOOh7 JEEf8 KPOf9 NGGAAi60 JOOf1 L;G MBEk2 SEEf3 EEe4 NY*g5 OOe6 GUEIg7 GU<",
   "g8 GUe9 N;g70 NYUNg1 RAe2 MBOOg3 VEEf4 MBOf5 L;G JOj6 HIe7 NGU<h8 ENe9 KUAg80 DOOf1 DOe2 VI",
   "e3 L;G NGGOl4 NGENg5 VAe6 HUe7 MBUUg8 MBEEg9 MUENh90 GEEf1 NDEEg2 NJUf3 H;f4 WUIf5 <e6 SIA",
   "f7 FUAbcORAH %N*E BR<CHESxSεjRCURYeOITIC CURSIVE FRACTI; E^ TWELFTHSn.VEN TWELFTHS",
   "pFIVE TWELFTHSmOUR TWELFTHSnN*E TWELFTHSn;E H+FeTWELFTHlSEVEN TWELFTHSnIX TWELFTHS",
   "mTEN TWELFTHSlHREE TWELFTHSnWO TWELFTHSvμAaRCHAIC SAkBAcDAcEbHHAdIbK|dLAcMAcNAbEcObPAcQAcRAcSA",
   "bEcTAbEbOcWAcYAiOGOGRAM IMNdRMTmNUMB, E^_φ_ξqξjY ξpFIFTY_ξmVE_φ_ξqξmORTY_ξmUR_φ_ξqξnN*E_φ_ξqξ",
   "jTY ξp;E_φ_ξqξmSEVEN_φ_ξqξjTY_ξpIX_φ_ξqξjTY_ξoTEN_ξlHIRTY_ξnREE_φ_ξqξnWΔY_ξnO_φ_ξqξ",
   "bbHI,OGLYPHIC μAbBAa-2eDAcEbHHAdIbK|dLAcMAcNAa-2dEa-2eObPAcQAcRAa-2eSAa-2dEcTAa-2dEa-2dOcWAcYA",
   "jSYMBOL VIDJa-2bgP,S;hSSAGE WAIT*GnTRIC+ BREVEfL;G OV, SHORTfTWO SHORTSuPΔASEMEjSHORT OV, L;G",
   "pTETRASEMEiRISEMEgWO SHORTS JO*EDgOV, L;GzOeIAO μAHbRCHAIC MAcNAbGAdZZAlBAbRIdDAbDAcLHAbYAeZ|",
   "cYIcZAeFAcG|bHAeH|dKAcL|bYAdYAdM|dNAaS+IZATI;lG|dHAcN|dY|ePAbLAdQAbGAdREFORMπT;E-1b2b4b5b6b8",
   "fSHAmTEdS|cSAcYIdTAbEbLHAbYAe;E-2b3b4b5b6b7b8fSAbEbHAcSAdTAdVAbFAdWAcXAcYI DZHAeKAcNNAdPAcTA",
   "bS|dTAgZ|cS|dZAbSAbYAdYAlSIGN ASPIRATI;kC;S;<T MODIFI, B&wREFORMπASPIRATI;kVOIC*GvT;E:fδfR^",
   "fTOP R^oVOWEL~ AaAbEaEcHHcIbNaGcUcEaAbIbNaGcRaRdIaAaNaGdEbGbIbNGcOaNGdUcNaGcOa,bYcGbObU",
   "cROUNDπ,aRlUaAaNaGdEIcIbNGcOGcUcVWcWaOcYaIbUIrCR DASHεl; USεnO~fBEcPH;EfSCOPEiDD. DOT",
   "dTHIRD WHITE R^ PO*TΨ*DEXbkL*E υ ELLIPSISzLIT&Y HELMETgMED+lKY WAYgL~hNIBUSdDISCeMIZEfUS~",
   "_* TRI<G.l%COMMA:lDOT δjF+LΨDOTSmRISΨDOTSvTILDEg-OR-PLUS~pYcRROR_B+LkMSPdOBI. PH;E_OFF",
   "d%R^W&DS> AT .FTboDELScRN PΔATHL;oI ABBREVIATI;~rD<DAe#,OjOUB. D<DAmμAaAbIbUcB|dC|dDAbD|dHAdE",
   "bG|dHAcIaIcJ|dK|dLAbLAdMAcNAbGAcNAcYAdObP|dRAcS|cSAdT|cT|eUaUcVAbOC+IC LaLcRaRkYAjSIGN <USV&A",
   "hRDHAC<DRAlHUVAeVIRAMAeS&GAmVOWEL~ AAbIbUcEbIaIcObUaUcVOC+IC LaLcRaRwFI, BREVE %*V,TπBREVE",
   "zμACUTE ACCΔlLVEOL& CLICKnPOSTROPHEkBEG* HIGH T;EjLOW T;EnILABI+ CLICKoCAPIT+ AaEcBa&RπBiCbDbE",
   "bFbGbH_%ηnIbJbKbLbMbNbOaUcPbQbRaEV,SπEbNkTbUbVbWiΔRπ.FT H+F R*GoR^ H+F R*GwH*ESE T;E Y<G P*G",
   "eQUcRUcSH<Gj* P*GeQUcRUcSH<GvIRCUMF.X ACCΔqOL;eROSS ACCΔlYRILLIC ENcH&D~jSOFT~sDΔ+ CLICK",
   "lOT υ B&oSLASHfχB&oUB. APOSTROPHEkPRIMEkWN>HEADjTACKjEND HIGH T;EjLOW T;E",
   "lXTRA-HIGH DOTTπ.FT-STEM T;E B&sT;E B&p.FT-STEM T;E B&sT;E B&nLOW DOTTπ.FT-STEM T;E B&sT;E B&",
   "p.FT-STEM T;E B&sT;E B&sGEORGI< N&lLOTT+ STOP_%ηxRAVE ACCΔmH+F TRI<GUL& COL;",
   "uIGH DOTTπ.FT-STEM T;E B&sT;E B&p.FT-STEM T;E B&sT;E B&nLAT,+ CLICKmEFT>HEADjH+F R*GjTACK",
   "iOW ACUTE ACCΔmCIRCUMF.X ACCΔrDOTTπ.FT-STEM T;E B&sT;E B&nWN>HEADoGRAVE ACCΔm*V,TπEXCLAMAκ",
   "z.FT>aHEADk-STEM T;E B&sMACR;gR^>HEADnNGeTILDEe;E B&iUP>HEADmχL*Eo, R^ CORN, <G.yMACR;",
   "fID DOTTπ.FT-STEM T;E B&sT;E B&p.FT-STEM T;E B&sT;E B&jD. Φ ACUTE ACCΔmGRAVE ACCΔtGRAVE ACCΔ",
   "rNUS~kOPEN SHELFkPLUS~iRIMEfRAISπCOL;fDOWN>kEXCLAMAκq*V,TπEXCLAMAκzUP>",
   "oETROF.X CLICK %RETROF.X ΞbhV,SπCOMMAfGLOTT+ STOP_%ηbgHOTIC Ξk^>HEADjH+F R*GjTACKkSHELF",
   "dORT EQU+S~qM+L AaEb*cLPHAfB_%Ξk&RπOhETAdOTTOM H+F OnC_%CURLkAPIT+ AAcBbG_%ΞlHbI_%ηmNV,TπRkL",
   "_%BELTlNbOEcRbUbYiHIcLOSπOMEGAfREV,SπOPEN EwD_%Ξ_<D TAILnTAILkELTAdZH DIGRAPHlOT.SS J %η_<D Ξ",
   "bdZ DIGRAPH_%CURLeRETROF.X ΞbeEaNGcSHcTHcZHdFaENG DIGRAPHmG_%ΞkAMMAeREEK GAMMAfPHIjH_%ΞeηmENG",
   "_%ΞoI %ηmOTAeJ_%CROSSED-TAILtKbL_%BELTe*V,TπLAZY SpΛTILDEmP+AT+ ΞmRETROF.X Ξ_<D BELTbdEZH",
   "_%RETROF.X ΞxIGATURE OEkS DIGRAPHjZ DIGRAPHkM_%ΞlN %.FT ΞjRETROF.X ΞvO_%ηmPEN EbOgPaHIdQbR",
   "_%FISHΞiTAILkAMS HORNiEV,SπEbGLOTT+ STOPmOPEN EpS_%CURLeΞkCHWAdRIPT GhIDEWAYS UkT_%P+AT+ Ξ",
   "mRETROF.X ΞuC DIGRAPH %CURLtESH DIGRAPHlHETAeOP H+F OjS DIGRAPH_%RETROF.X ΞbdURNπAaEbLPHAfHbI",
   "bM_%L;G .GpOPEN EgR_%ΞeL;G .G_<D RETROF.X ΞbiVbWbY_%BELTsU_B&d%.FT ΞpPSIL;hV_%ΞeR^ ΞrWbXbYbZ",
   "_%CURLeRETROF.X ΞbaTRESS <D HIGH T;EjLOW T;EsUP,SCRIPT H+F TRI<GUL& COL;vTRI<GUL& COL;",
   "bcTRI<GUL& COL;pURNπCOMMAmUNASPIRATEDkP>HEADjTACKgScχL*EmOIC*GhY<G DEP&TΨT;E M&K",
   "x* DEP&TΨT;E M&KbkULO TWO SUMmNEY BAGd%W*GSl-MOUTH FACEnGOLI< BIRGA_%Φ ORNAMΔpORNAMΔtCOL;dMMA",
   "fD#,OjOUB. BIRGA %ORNAMΔbaELLIPSISiFOUR DOTSiREE V&IATI; SE.CTOR FOURe;EdTHREEeWObaULL STOP",
   "j*V,TπBIRGA_%Φ ORNAMΔbjμAaLI G+I AaHbNUSV&A ;EmB+UDAgCAcDAaG+GAfM&UfDAdH+F UbYAhIaNV,TπUBADAMA",
   "qKAcNGAcNAdP|dSSAdTAbHREE B+UDAlT|eUBADAMAhVIS&GA ;ElZ|lNGdBAcCHA_%TWO DOTSpIdDAcEaEcFAcGAcHAA",
   "dIbJAcK|dL|dMAaNCHU +I G+I BHAdCAbYAdDDHAdHAdGHAdJHAdLHAdNGAdSSAdTAbTAdZ|mFAcIbKAcRAcZHAkNAcO",
   "aEcPAcQAcRAcS|cIBE <GdCHAdDAcEbFAcGAaAdHAaAdIaYcJAcKAcPAcRAAdSHAdTAbSAdUaEcZ|iTAbODO +I G+I TA",
   "cZHAlNGdBAcCHAdDAbZAdEbGAaAdHAAdIbJAbIAdKAcL;G VOWEL~pMAcNIAdOaEcPAcQAcTAbSAdUaEcWAcYAgSAdUaE",
   "cWAcYAcZAbHIcRAkM<CHU COMMAfFULL STOPqNIRUGUgROTATπBIRGA_%Φ ORNAMΔpORNAMΔ",
   "bbSIBE SYLLAB. BOUND&Y M&K,bcWIRL BIRGA_%Φ ORNAMΔpORNAMΔzTODO SOFT HYPHENpRIP. BIRGA %ORNAMΔ",
   "zURNπSWIRL BIRGA %Φ ORNAMΔbnVOWEL SEP&ATORwKEY_FACEiOGRAM FOR E&THfY<Gd*mRAILeSTAB.εpOD BUBB.",
   "iN CAKEeVIEWΨC,EM;YtSQUEbITOgTH, CHRISTMASnOR BOATeSCOOT,iIZπWHEELCHAIRpWAYgUNT FUJIfA*",
   "_BICYCLISTjCAB.WAYiRAILWAYnSE_FACEeTRAPhTHdVIE CAM,AkYAIeRO D<DAe#,OjOUB. D<DAmμAbBAcCHUdDAaI",
   "dEaAcHAIbOdKEAAEeHAIdOcLAaNdMAEMdIMdNGIc*dOaLbOcPAbHIdRIbOcSHIdTAbEKcHEAeWAcYOmUCH GREAT,-TH<",
   "m.SS-TH<mLT<I μAbB|dC|dDAbDAbDAcHAdHAdEbG|dHAcIbJAbJAdK|dLAcMAcNAbNAcYAdP|dR|cRAdSAcT|cT|eUbVA",
   "cYAjSECκqIMAPdP. MUSIC+ NOTESpICATI;~_* Φ CIRC.n.FT H+F CIRC.qR^ H+F CIRC.rTRI<G.l%DOT:jUND,B&",
   "sXlSET_MULTIPLICATI;oUNI;mSHROOMfIC FLAT~jNATUR+~mSH&P~l+ KEYBO&D_%JACKStNOTEeSCORE",
   "eYMBOL &PEGGIATO DOWNeUPnBEG* BEAMePHRASEgSLUReTIEiRACEbKETfEATH M&KiVEbIS_RESTlC C.FfAESURA",
   "gIRC. X NOTEHEADqLIMACUSfVISeUST, NOTEHEAD BLACKfWHITEvODAcMB*ΨACCΔa-STACCATOoUGMΔATI; DOT",
   "qBENDeDOITcUB. T;GUElWN BOWiFLAG-ζeIPeH&M;ICiLOUREfM&CATOa-STACCATOqRIPdSME&eNAP PIZZICATO",
   "nPRECHGES<G STEMqTACCATISSIMOgOgEMeTENUTOfREMOLO-1b2b3hIP. T;GUEnUP BOWnM; TIMEkRESCENDOhOIX",
   "eUT TIMEiDA CAPOfL SEGNOhMP_+LgSHπB&L*EnECRESCENDOjGREE SLASHlOUB. B&L*EhFLATeSH&PlRUM C.F-1b2",
   "lE^H NOTEeRESTkND BEAMeOF STIMMEjPHRASEgSLUReTIEhF C.F_OTTAVA +TAeBASSAs,MATA_δm*+ B&L*E",
   "kG,πTREMOLO-1b2b3qVE-L*E STAFFoLAT DOWNeUPgORTEdUR-L*E STAFFkSTRΨFRETBO&DuUSA BLACKfWHITE",
   "kG C.F_OTTAVA +TAeBASSAsLISS<DO DOWNeUPlRACE NOTE NO SLASHiSLASHoEGORI< C C.FgF C.FqH+F NOTE",
   "ePED+ M&KkRESThUPTSTIMMEl*V,TπTURNnKIEV< C C.FgE^H NOTE STEM DOWNeUPsND OF PIECEmF*+ NOTEjLAT~",
   "jH+F NOTEjQU&T, NOTE STEM DOWNeUPuRECITATIVE M&KpWHO. NOTEqOR;f.FT REPEAT~p;GA_IMP,FECTA REST",
   "pP,FECTA RESTtMAXIMAfEZZOe*IMA_BLACKfRESTkO; NOTEHEAD BLACKfWHITEsULTI RESTfP. MEASURE REST",
   "vNATUR+ DOWNeUPjEBENSTIMMEkOTEHEAD BLACKnULL NOTEHEADn;E HUNDRπTWΔY-E^H NOTEeRESTbb-L*E STAFF",
   "nRNAMΔ η-1a0b1c2b3b4b5b6b7b8b9qTTAVA +TAeBASSAmP&ΔHESIS NOTEHEADtED+ M&KeUP M&KlS SUBPUNCTIS",
   "nI<OeLUS NOTEHEADmODATUSfRRECTUS_F.XUSqQU&T, NOTEeRESTeT;E FLATeSH&Pq*DICESIMA +TAeBASSA",
   "sREPEAT DOTSfπFIGURE-1b2b3pV,SE F*+ B&L*Eu^ REPEAT~pNFORZ<DOlSC<DICUS_F.XUSpEGNO",
   "dMIBREVIS BLACKfRESTeWHITEmM*IMA BLACKfRESTeWHITEpH&P DOWNeUPgORT B&L*Em*G. B&L*EmX-L*E STAFF",
   "kSTRΨFRETBO&DrTEΔH NOTEeRESTkY-FOURTH NOTEeRESTqORIdQU&E BbNOTEHEAD BLACKfWHITEuUBITO",
   "gTEMPUS IMP,FECTUM CUM PROLATI;E IMP,FECTA_DIM*UTI;-1b2b3xP,FECTA",
   "bjP,FECTUM CUM PROLATI;E IMP,FECTAkP,FECTA_DIM*UTI;-1caHIRTY-SEC;D NOTEeRESTqREE-L*E STAFF",
   "pORCULUS_RESUP*USrRaI<G. NOTEHEAD DOWN BLACKfWHITEk.FT BLACKfWHITEkR^ BLACKfWHITElUP BLACK",
   "fR^ BLACKfWHITElWHITEs-ROUND NOTEHEAD DOWN BLACKfWHITEbhURN_SLASHfUPgWO-L*E STAFFoVIRGA",
   "eOID NOTEHEADnWHO. NOTEeRESTjITH F*G,NAILSqX NOTEHEADkZpVScWbY<M& C;S;<T~ MEDI+ HAcRAcWAcYA",
   "i; MEDI+ LAcMAcNAnSH< MEDI+ WAbdD#,OkμAaIT; RAhUcB|dC|dDAbD|dHAdEaAST,N PWO K&EN GHWAeNNAdYWA",
   "vG|cREAT SAiHAcIaIcJ|dK|aMTI C|dDD|dHAdFAcGAcH|dJ|dLLAdNAbYAdRAcSAcTT|eXAcZAjLAbLAdMAb; BBAbE",
   "dEbJHAdNGAhNAbGAcNAbYAdYAdObP|dRAbUMAI P+AUNG FAqSAbGAW K&EN SHAnHAaN AbB|dC|dDAcFAcG|dHAcJHA",
   "dK|dNAbNAcYAdPHAdTHAdZAfWE P+AUNG CHAdSHApSAdTAaI LAΨB|dDAbD|dHAdFAcG|dJ|dLLAdNNAcYAmHAcT|eUaU",
   "cVOC+IC LaLcRaRkWAbEST,N PWO K&EN PWAdTHAvYAiOGOGRAM KHAMTI HMcOAYdQN",
   "sMODIFI, μKHAMTI REDUPLICATI;uSH< REDUPLICATI;biSH< D#,OoIGN <USV&AhSATeDOT δjKHAMTI T;E-1b3",
   "nLITT. SECTI;oPAO K&EN T;EoRUMAI P+AUNG T;E-5uSECTI;gH< COUNCIL EMPHATIC T;EnT;E-2b3oSAWdT;E-2",
   "b3b5b6lTAI LAΨT;E-2b5qVIRAMAeS&GAhWEST,N PWO K&EN T;E-ζbcYMBOL AFOREMΔI;EDnIT; EXCLAMATI;l;E",
   "dTWOjCOMP.TEDjGENITIVEiLOCATIVEiSH< EXCLAMATI;l;EpTAI LAΨD#,Ot;E M&K SGAW K&EN HATHIfKE PHO",
   "bbVOWEL~ AAbIaT; AaIiEa:hGEBA K&EN ImIaIcKAYAH EEcOEcUhM; IIcOfSGAW K&EN EUmH< AAcEa:hF*+ Y",
   "mT+L AAhUaUcVOC+IC LaLcRaRkWEST,N PWO K&EN EUcUEbnN-&Y CIRC.D DOT OP,ATORmPLUS OP,ATOR",
   "nωOP,ATORvOPRODUCTj*T,SECTI;mLOGIC+ <DdORkPRODUCThSQU&E *T,SECTI; OP,ATORvUNI; OP,ATORuUMMATI;",
   "jωOP,ATORoUNI;_OP,ATOR %DOTdPLUSyWHITE χB&xABATAE< CRUCIFORM NUMB, FOURvμ+EPHeY*eBETHeD+ETH",
   "gF*+ +EPHfBETHeHEcKAPHeLAMEDHgMEMdNUNdSH*eYODHkGIMELfHEaTHeKAPHeLAMEDHgMEMdNUNdPEcQOPHeRESH",
   "eSADHEdMEKHfH*eTAWcETHeWAWdYODHeZAY*mNUMB, FIVEdOURe;E_φlTENcHREEeWΔYeOrLAdIL POLISHiRA~iK",
   "bME BADGEiNDa*AG&I HEADηkμAaAbIbUcB|dC|dDAbD|dHAdEbG|dHAcIaIcJ|dK|dLAbLAdMAcNAbGAcNAcYAdObP|",
   "dRAbRAdS|cSAdT|cT|eUaUcVAbOC+IC RaRkYAjSIGN <USV&AhVAGRAHAiSIDDHAMhVIRAMAeS&GAmVOWEL~ AAbIbUcE",
   "bIaIcObPRISHTHAMATRA EpUaUcVOC+IC RaRbfRROW NO-BREAK SPACEtTI;+ DIGIT SHAPESmP&KlUSEATπFACE",
   "mZ& AMU.TlBHbSPdECKTIEfGATπΦ χB& Φ R^ TURNSTI.btIVE ACKNOW.DGElCIRC.D DIGIT Z,O",
   "kLAT* CAPIT+ .TT,γbZwNUMB, E^EENh.VENgFIFTEENgOURTEENiN*ETEENiSEVΔEENiIXTEENhTHIRTEENhWELVE",
   "dNTYnSQU&EgTRI<G.qDIAG;+ CROSSfDIAM;DhΛR^ TO LOW, CΔREblSQU&πABcCROSS M&KkICcLAT* CAPIT+ .TT,γ",
   "bZwPAcQUESκnSAcWCrITH, A SUBSET OF NOR EQU+ TOuP,SET OF NOR EQU+ TO",
   "zPPROXIMATELY NOR ACTU+LY EQU+ TObjGREAT,-TH< NOR EQU+ TOfIV+Δ TOn.SS-TH<ba.SS-TH< NOR EQU+ TO",
   "fIV+Δ TOnGREAT,-TH<bgLbPTUNEa$ TWOoRD FACEhSSUSdT %EGGSkΨDOLLSlUT,cR+ CHESS BISHOPιES",
   "bqEQUIHOPP,_ROTATπN*ETY DEGREESbhK*GιESbnN^_ROTATπFORTY-FIVE DEGREESsN*ETY DEGREES",
   "o;E HUNDRπTHIRTY-FIVE DEGREESbfTHREE HUNDRπFIFTEEN DEGREESbcWO HUNDRπSEVΔY DEGREES",
   "pTWΔY-FIVE DEGREESbuPAWNιESboQUEENιESbpROOKιESboTURNπBISHOPgK*GdN^gPAWNeQUEENfROOKrFACEkW L*E",
   "eMO;εg%FACEoSHEQEL~lTAI LUE D#,OkμF*+ BbDbKbMbNaGcVhHIGH BAcDAcFAcHAcKAbVAdLAcMAcNAbGAdP|dQA",
   "cSAbUAdT|cSAdVAcXAbVAdYAhLOW BAcDAcFAcHAcKAbVAdLAcMAcNAbGAdP|dQAcSAbUAdT|cSAdVAcXAbVAdYA",
   "nSIGN LAEaVjTHAM DIGIT ;En;E M&K-1b2lVOWEL~ AAaYcEbYcEbIIbYcOaAaYcYcUaEaYcUbYcVOWEL SHORTEN,",
   "bjA ABBREVIATI;~rCOMMAfD<DAe#,OjOUB. COMMAfD<DAmGAP FILL,k*S,TI;~oμAaAbIbUcB|dC|dDAbD|dHAdEbG|",
   "dHAcIaIcJ|dK|dL|dM|dNAbG|dHAcNAcY|eObP|dR|dS|cSAdT|cT|eUaUcVEDIC <USV&AnOC+IC LaLcRaRkWAcYAjOM",
   "cPLACEHOLD, M&KqS<DHI M&KkIDDHIeGN <USV&AhVAGRAHAiC<DRAB*DUlF*+ <USV&AoJIHVAMULIYAlNUKTA",
   "fUPADHM<IYAlVIRAMAeS&GAmVOWEL~ AAbIbUcEbIaIcObUaUcVOC+IC LaLcRaRxL*E .FTeR^kSPAP,hXT L*EePAGE",
   "i^ %ST&SoNJAeKO COMB*ΨΦ DOT:qL;G DESCENDΨT;EpHIGH T;EjLOW T;EiRISΨT;EqNAS+IZAκrSHORT HIGH T;E",
   "jLOW T;EiRISΨT;EyMAfD<TAY+<j#,OjOROME~lEXCLAMAκqHIGH T;E APOSTROPHEuLAJ<Y+<jETT, AbBAcCHAdDA",
   "aGBAS*NAkEaEcFAcGBAdHAcIbJAb;A CHAdJAcRAhKAcLAcMAcNaA_WOLOSOiYA_WOLOSOkOaOcPAcRAbRAdSAcTAcUbWA",
   "cYAiOW T;E APOSTROPHEtSYMBOL GBAKURUNENkOO DENNENqTAM<~nLbNBSPeO BICYC.ShREAK H,EkΔRY_SIGN",
   "kMOBI. PH;ESn;E UND, E^EENεzPEDESTRI<SkIRACYgSMOK*Gεp-BREAK SPACEmM*+ DIGIT SHAPESqSMA~",
   "kN-BREAKΨHYPHENpPOTAB. WAT,εvFORK*GiRaDIC M&K~nM+ SUBGROUP OF_OR EQU+ TO",
   "bbTH EAST <D SOUTH WEST>tRROW_<D SOUTH EAST>uCROSSΨNORTH WEST>qSOUTH EAST>z%ΞpBLACK>lΦ>",
   "mPO*TΨBUDd.AFeV*E .AFsS<S-S,IF>qTRI<G.-HEADED>_TO B&bcWHITE>q*DIC FRACTI; ;E E^HgH+FeQU&T,",
   "hSIXTEΔHnTHREE QU&T,SiSIXTEΔHSzPLACEHOLD, M&KqQU<TITY M&KkRT, M&KmRUPEE M&K",
   "qWEST <D SOUTH EAST>tRROW_<D NORTH EAST>uCROSSΨNORTH EAST>zTO CORN,gL;G B&l%ΞpBLACK>lΦ>",
   "mPO*TΨBUDd.AFeV*E .AFsS<S-S,IF>qTRI<G.-HEADED>_TO B&bcWHITE>rEAST-PO*TΨAIRPL<EzSE",
   "cT A SUBSET OFhP,SET OFmLMOST EQU+ TOoN E.MΔ OFmSYMPTOTIC+LY EQU+ TOxCHECK M&KkEQU+ TOfIV+Δ TO",
   "nGREAT,-TH<mIDΔIC+ TOm.SS-TH<jNORM+ SUBGROUP OF_OR EQU+ TObeP&+.L TOlSIGN",
   "dQU&E IMAGE OF OR EQU+ TOuORIG*+ OF OR EQU+ TObeTILDEeRUEfCHπ.FT SEMICIRC. %THREE DOTS",
   "beOW, R^-SHADOWπWHITE R^W&DS>brR^ SEMICIRC. %THREE DOTSbgUPP, R^-SHADOWπWHITE R^W&DS>bwE_PAD",
   "bGEfBOOK_%DECORATIVE COV,bdULaLcMB, E^EEN FULL STOPr.VEN FULL STOPqFIFTEEN FULL STOP",
   "qOURTEEN FULL STOPsN*ETEEN FULL STOPsSEVΔEEN FULL STOPsIGNcXTEEN FULL STOPrTEN FULL STOP",
   "mHIRTEEN FULL STOPrWELVE FULL STOPnNTY FULL STOPu,O~jSHU CH&ACT,-1B17!bαc8!bαc9!bαcA!bαcB!bα",
   "cC!bαcD!bαcE!bαcF!bαd20!bαc1!bαc2!bαc3!bαc4!bαc5!bαc6!bαc7!bαc8!bαc9!bαcA!bαcB!bαcC!bαcD!bαcE!",
   "bαcF!bAbBpIT,AκsT <D BOLTlYIAKENG PUACHUE HM;G CIRC.D CAkD#,OkμAaAcCAcDAbLAdEaEcFAcGAcHAaHdI",
   "bKAcLAcMAbLAdNAbCAcKAcPAbLAdQAcRAcTAbSAcXAdYAdOaOcPAbLAdQAcRAbRAdSAcTAbSAcXAdUbVAcWbXAbYAdYA",
   "cZAiOGOGRAM NYAJnSIGN FOR <IM+g*V,TEBRATEmLOCATI;iP,S;gTH*GjXW XWjYLLAB. .NGTHEN,tT;E-BbDbGbJ",
   "bMbSbVbdOBJECT REPLACEMΔ CH&ACT,baLIQUE <G. OPENΨDOWNeUPqHYPHENmS,V, EYEεsCR AMOUNT OF CHECK",
   "pBELT BUCK.kOW TIEgR<CH B<K IDΔIFICATI;baCHAIReUSTOM, ACCOUNT NUMB,xDASHdOUB. BACKSLASHqFORKeΞ",
   "e*V,TπFORKpTAG;+~lOPUSgDENdFFICE BUILD*GoGHAM FEATH, M&KmμAILMeBEITHfCEIRTeOLLeDAIReEABHADH",
   "fDHADHfMH<CHOLLlFE&NfGORTeIF*dODHADHhLUISeMU*eNGEAD+gI;e;NcRcPEITHfRUISeSAILdTRAIFgT*NEfUATH",
   "dIL.<NhRjREV,SπFEATH, M&KvSPACE M&Ko;EKfHM~hIL DRUMhK H<D~lL CHIKI AHADeD#,OkGAAHLAA TTUDDAAG",
   "qμAAJbKbMbWcGbLbNGcTcEDDcNbPbRRdIHbNYcRbScLAaAcEbIbObUcOBbHbTTcVcUCbDbNNcYjMU TTUDDAG",
   "i-GAAHLAA TTUDDAAGtPHA&KAAhUNCTUATI; Φ MUCAADnMUCAADsRELAAmD CH*ESE Ξ M&KjIT,Aκ",
   "wHUNG&I< CAPIT+ μAaAbKbMBcNDdCLOSE EhEaBbCaHbScDbEbFbGaYcHbJbKbLaYcMaPcNaCbTa-SHAPED~nYcPbRbS",
   "aZcTaYcVbZaSdIaIcNIKOLSBURG OEcUEnOaEEcOcRUDIMΔA OEcUEmSHORT ,iUaNKcSbUrNUMB, FIFTYdVEe;E_φhξ",
   "mTENkSM+L μAaAbKbMBcNDdCLOSE EhEaBbCaHbScDbEbFbGaYcHbJbKbLaYcMaPcNaCbTa-SHAPED~nYcPbRbSaZcTaY",
   "cVbZaSdIaIcNIKOLSBURG OEcUEnOaEEcOcRUDIMΔA OEcUEmSHORT ,iUaNKcSbUzIT+IC μAbBEcCHEdDEcEaFbKScL",
   "bMbNbRaScSaHbSdHEcIaIcKAbEbHEcUcNORTH,N TSEmObPEbHEdSHEcOUTH,N TSEmTEbHEdUaUcVEcYEcZE",
   "jNUM,+ FIFTYdVEe;EdTENsKEYdNORTH &ABI< μA*c.FeBEHdDADbLdES-1b2b3eFEHdGEEMdHA*fHAHcEHdKAFcHAH",
   "eLAMdMEEMeNO;eQAFdREHdSADdTAHcEHcH+cEHeWAWdYEHdZAHb*lNUMB, ;EdTENcWΔYbbP,MIC μ<cBURdCH,YfDOI",
   "cZHOIdITAfEaFcGAIdHAcIaAbEcKOKEe.IdMENOEfNENOEfOaOcPEEIeREIdSHCHOOIfOOIeIIdTAIcSIUeUbV,cOOIeYA",
   "aTc,aIbUdRYcUcZATAdHOIpSI< NUMB, φh;EdTENcWΔYeOkSIGN AaURAMAZDAAa-2cHAmBAaGAdUUMISHhCAcDA",
   "aHYAAUSHa-2kIbUcFAcGAbUcHAcIbJAbIcKAbUcLAcMAbIbUcNAbUcPAcRAbUcS|cSAdT|cUcUbVAbIcXAbSHAAYATHIYA",
   "mYAcZAhWORD DIVID,q;+ COMPUT,rSOGDI< FRACTI; ;E H+Frμ+EPHdT,NATE AY*nY*eBETHeF*+ +EPHfBETHeHE",
   "cNUN_%χTAILwSADHE_%χTAILyTAW_%χTAILbcGIMELfHEaTHeKAPHeLAMEDHgMEMdNUNdPEcRESH-AY*-D+ETHqSADHE",
   "dMEKHfH*eTAWdWAWdYODHeZAY*lIGATURE AY*-D+ETHuNUMB, FIVEdOURe;E_φlTENcHIRTYeREEeWΔYeO",
   "qUTH &ABI< μ+EFdYNdBETHeD+ETHfHADHEd.THhFEcGHAYNeIMELfHEaTHeKAPHdHETHfLAMEDHgMEMdNUNdQOPHeRESH",
   "eSADHEdMEKHeTcH*eTAWcETHdHAWcETHfWAWdYODHeZAYNlNUMB, FIFTYf;Eh,IC *DICATORbfTURKIC μORKH; AaB",
   "bDbEBbDbGbKbLbNbRbSbTbYcGbLbNbQbRbSaHcTbYcBASHeECbLTcMbNCbGbTbYcPbSHcZcIaCbQcOaEaKcPbQbT",
   "jYENISEI AaBbDbEaBbGbKbNaGcTbYcGbLbNGcQbRbSHcTbYcEaCbNCbTbYcSHcZcIaQcOEaKcQyUYGHUR COMB*ΨDOT:",
   "fδjTWO DOTS:fδyμ+EPHfBETHeF*+ HETHkGIMEL-HETHkKAPHeLAMEDHfESHeMEMdNUNdPEcRESHeSADHEdMEKHfH*",
   "eTAWdWAWdYODHeZAY*mPUNCTUATI; B&dFOUR DOTSjTWO B&SeDOTSbc, ADULTfM<dWOM<jIVEeMε",
   "iN %EXCLAMAκ %.FT R^>:byCOMΨAUTOMOBI.kBUSdFIRE ENG*ElPOLICE C&kTAXIlE BUTT; MOUSEmDOT .AD,",
   "gOV, TWO DOTS PUNCTUATI;be-PIECE SWIMSUITqI;ePEN BOOKcXdCΔRE AST,ISKiBLACK ST&kCROSS",
   "fTE&DROP-SPOKπAST,ISKbfFI. FOLD,kOLD,gH<DS~kLOCKeMAILBOX %LOW,πFLAGmRAISπFLAGySUBSETeP,SET",
   "j-CIRCUIT-OUTPUT H-TYPEεnL-TYPEεbcOUTL*πR^W&DS>bbRATΨSYSTEM COMM<DwHIUCHUShPOSITI;iTIC+ DISC",
   "_IC;n; KEYjR %DOT *SIDEq<GE BOOKeHE&ThUT<hIG*+ OFiYA AI .NGTH M&KnU .NGTH M&KoD#,O",
   "kFRACTI; ;E E^HgH+FeQU&T,hSIXTEΔHnTHREE QU&T,SiSIXTEΔHSzISSH&gμAaAbIbUcB|dC|dDAbD|dHAdEbG|dHA",
   "cIaIcJ|dK|dLAbLAdMAcNAbGAcNAcYAdObP|dR|cRAdS|cSAdT|cT|eUaUcVAbOC+IC LaLcRaRkWAcYAbYA",
   "kSIGN <USV&AhVAGRAHAiC<DRAB*DUlNUKTAfOV,L*EiVIRAMAeS&GAmVOWEL~ AAbIbUcEbIaIcObUaUcVOC+IC LaLcR",
   "aRzNATE .FT P&ΔHESISqR^ P&ΔHESISwTHODOX CROSSnSAGE CAPIT+ μAaHbIaNdBRAdCHAdDHAdEaHCHAdKAcPAcTA",
   "bSAe*dGHAdHAbYAdIbK|cYAdLAcMAcNAcOa*dPAcS|dTAbS|eUbWAcZ|sSM+L μAaHbIaNdBRAdCHAdDHAdEaHCHAdKA",
   "cPAcTAbSAe*dGHAdHAbYAdIbK|cYAdLAcMAcNAcOa*dPAcS|dTAbS|eUbWAcZ|uCbM<YA D#,OkμAaAb.FeBAcCAYN",
   "eDEELdHAdEaEcFAcGAcHAcIbJAcKAAFdHAdLA<eMI*eNUUNeOaOcQAAFeRAcSAbHI*fTAcUbWAWdXAcYAqTT,",
   "cOM< SIYAQ +T,NATE NUMB, E^fFIVEdOUR_φmN*EeSEVENeIX_φlTEN_ξlHREEeWO_ξbdFRACTI; ;E H+FeSIXTH",
   "sM&RAT<iNUMB, E^_φhξjY_ξpFIFTY_ξmVE_φhξmORTY_ξmUR_φhξnN*E_φhξjTY_ξp;E_φhξmSEVEN_φhξjTY_ξpIX_φ",
   "hξjTY_ξoTEN_ξlHIRTY_ξnREE_φhξnWΔY_ξnO_φhξbgUNCE~iTBOX TRAYiL*πBLACK ST&kGREEK CROSSlLAT* CROSS",
   "lWHITE ST&sV,HEATπFACElLAPaPΨBLACK SQU&ESnWHITE <D BLACK SQU&ESrSQU&ESu*EhWLcXbYST,gPACKAGEfD",
   "aDΨCH&ACT,pGE_FACΨUPj%CIRC.D TEXTlURLkRbScODAeHAWH HM;G CL<~ FAJdHAMbWJeKHABdOOcWMdLAUJdIS",
   "dMUASePHABeTHOJdSABcHEEJeWBeVAJcWJdXYOOJfYAJcEEGn;S;<T AUcCAUcHAUeHAUcLAUdNAUeLAUdMAUdNAUcCHAU",
   "eKAUdLAUdTHAUdSAUfPLHAUfQHAUeRAUdVAUdXAUdYAUnD#,OkM&K CIM HOMdKEScHAVeSObUAMeTAUMdUB",
   "mNUMB, HUNDRπMILLI;SjSiMILLI;SiTEN BILLI;SiξSkSdRILLI;SqSIGN AVcCIM CHEEMeUAM TSHOOJ",
   "lHAIS LUS NTOG NTOGsNRES TOSiPUB DAWBiTSOV ROGhXWV_CHWVnHLIcNUBeIB YAMgLOSdMEEJ SUABeTSEEBjUS",
   "dNQIGdTUJeTAUcHIRD-STAGE HLIoXHEEJ CEEVlVOS FEEMeLUBdNRUAeSEEVeTHIABdOMdSHAB CEEBoXAUSdIAB",
   "dYEEM FAIBeNTXIVfRHOdTOVhOOeZWJ THAJnVOWEL KAABbVcBbIBbVcUBbVcVbWBbVdEBbEBbVcVcIABbVcBbVcOBbOB",
   "bVcVcUABbVcBbVcWBbVuLLASdM BR<CHgDOWN H<DjTREEeUP H<DiS UP TOGETH,nYRENE .FT-PO*TΨF.UR;",
   "tTT, +EPHeY*eBETHeD+ETHgF*+ NUNjGIMELfHEaTHeKAPHeLAMEDHgMEMdNUNdPEcQOPHeRESHeSADHEdMEKHfH*eTAW",
   "cETHeWAWdYODHeZAY*mNUMB, FIVEdOURe;EdTENcHREEeWΔYeOkR^-PO*TΨF.UR;beNCAKESfDA FACEiP,CLIP",
   "hRACHUTEfGRAPH SEP&ATORkOScUS M&KmL.L TOc%υ ηrTILDE OP,ATORzΔHESIZπDIGIT E^fFIVEdOUReN*Ee;E",
   "dSEVENeIXdTHREEeWOjH<GUL CHIEUCH_AiIEUC_AbUhHIEUH_AhIEUNG_AhKHIEUKH_AiIYEOK_AiMIEUM_AhNIEUN_A",
   "hPHIEUPH_AiIEUP_AhRIEUL_AhSIOS_AgTHIEUTH_AiIKEUT_ApIDEOGRAPH +LI<CEiC+Ld;GRATULATI;oE&THe^",
   "eNT,PRISEkFESTIV+h*<CI+hREcVEdOUReHAVEeLABORfMET+eO;eNAMEd*Ee;EdREACHdPRESΔhSOURCEfTeSELFcVEN",
   "eIXcOCIETYgPECI+gTOCKdUDYeUNbP,VISEjTENcHREEeWOdWAT,eOODoKORE< CH&ACT, O HUdJE;",
   "wLAT* CAPIT+ .TT,γbZqSM+L .TT,γbZuNUMB, E^EENh.VENgFIFTEENgOURTEENiN*ETEENiSEVΔEENiIXTEENhTEN",
   "cHIRTEENhWELVEdNTYyROTdT +T,NAκrI+ DIFF,ΔI+mL*E BACKW&DiDOWNeFORW&DhUPiLY-RECYC.D PAP,ε",
   "bbN,SHIP~mY POPP,kSSEDεiNG, SHIPkIVE-PULL-DOWN-OUTPUTεsUP-OUTPUTεzPORT C;TROL",
   "oU C* HAU GLOTT+ STOP_F*+fV&I<TuμAbBAcC|dDAcEbFAb*+ KbLbMbNaGcPbTbWbYhGAcHAcIaAcK|dLAcMAcNAbGA",
   "dObP|dRAcSAcT|dUaAcVAcZAiOW-F+LΨT;E_F*+fL;G_F*+bbMID-.VEL T;E_F*+fL;G F*+zRISΨT;E_F*+fL;G_F*+",
   "wS<DHI GLOTT+ STOP_F*+sT;E_F*+fL;G_F*+bgW PR*TSjDFbIcEACEεiHbOCKeNUTSeRcDESTRI<",
   "iN OV, STAMPπENVELOPEwCILdGU*eSIVE FACEjTAGRAMhOP. HUGG*GmR MIL.~kSIGNeTEN ξ~sCΔ~jFORMΨ&TS",
   "mM<Δ PAP,~rPENDICUL&_%SrSEV,ΨFACEm; BOWΨDEEPLYnCLIMB*GiDOΨC&TWHEELpFROWN*Gi* LOTUS POSITI;",
   "oSTEAMY ROOMoRAISΨBOTH H<DS * CE.BRATI;bh%B+LdL;D HAIRkCROWNfFOLDπH<DSmHEADSC&FjPOUTΨFACE",
   "s+ COMPUT,nPECTIVEjSETA~iO~hTRI DISHjHAGS-PA Φ HEAD M&KqμAaLT,NATE YAlSPIRATπFAmBAcCAaNDRAB*DU",
   "kHAdDAbDAcZAdEaEcFAcGAbGAdHAcIbJAcK|dLAcMAcNAbGAcNAcYAdObP|dQAcRAcS|cM+L AhT|cS|dT|eUbVOICπHA",
   "e.SS SHAnWAcXAcYAcZ|kM&K Φ SHADlSHADjS*G. HEAD M&KpUBJO*πμRAcWAcYArP,FIXπμRAbaISTOS DISC~>fBEE",
   "aHIVEgOOM,<GhWcULLS .GjCAPTIVEfRPΔRY PL<EnTcHILDeLUBdOLUMNeMBa*ΨOBLIQUE ηyDOLIUMeVEeEAG.fFLUTE",
   "fGAUNT.ThRAT,gHELMETfIDEdORNeLIDbLYeM<AC.SgTTOCKhOX BACKhPAPYRUSgEDESTRI<jL<E TREEiUMπHEADlRAM",
   "cOSETTEhSAWcHIELDdPdL*GeM+L AXEiTRA*,iTATTOOπHEADmI&AeUNNYfV*EeWAVY B<DiOM<",
   "wILIPP*E Φ PUNCTUATI;sS*G. PUNCTUATI;bbOENICI< μA*cLFdBETdDELTeGAMLeHEaTdKAFdLAMDeMEMdNUNdPE",
   "cQOFdROSHeSADEdEMKdH*eTAUcETdWAUdYODdZAIkNUMB, ;E_φlTENcHREEeWΔYeOkWORD SEP&ATORwLUSfICK",
   "aUP TRUCKkEbG_FACEeNOSEgLCROW~jE OF POOiLcNATAdCHπF*G,SkΨH<DkE DECORATI;lAPP.gWHEEL ST&lSCES",
   "dTOLeTCHFORK_%TEE TOPvLAC&DdE OF *T,EST~nWORSHIPnNCK C;ST<T_OV, TWO PIyYGROUND SLIDE",
   "mΨC&D ACE OF CLUBSfDIAM;DSiHE&TSgSPADESnBACKdLACK JOK,lE^ OF CLUBSfDIAM;DSiHE&TSgSPADES",
   "pFIVE OF CLUBSfDIAM;DSiHE&TSgSPADESnOOLcUR OF CLUBSfDIAM;DSiHE&TSgSPADESoJACK OF CLUBSfDIAM;DS",
   "iHE&TSgSPADESoKΨOF CLUBSfDIAM;DSiHE&TSgSPADESnN^ OF CLUBSfDIAM;DSiHE&TSgSPADESqN*E OF CLUBS",
   "fDIAM;DSiHE&TSgSPADESoQUEEN OF CLUBSfDIAM;DSiHE&TSgSPADESpRπJOK,jSEVEN OF CLUBSfDIAM;DSiHE&TS",
   "gSPADESoIX OF CLUBSfDIAM;DSiHE&TSgSPADESnTEN OF CLUBSfDIAM;DSiHE&TSgSPADESmHREE OF CLUBS",
   "fDIAM;DSiHE&TSgSPADESoRUMP-1a!c2a0b1c3b4b5b6b7b8b9gWO OF CLUBSfDIAM;DSiHE&TSgSPADESnWHITE JOK,",
   "wDbUaNG,eS~a: EQU+S~r* .FT H+F CIRC.qR^ H+F CIRC.rTRI<G.l%BLACK TRI<G.oCIRCUMF.X ACCΔ:xDOT δ",
   "jSM+L CIRC.:rUBSCRIPT TWOnTILDE:fδw-M*US~mTOa$ FIVEdOUReTHREEeWOnMbOCKET C+CULATORpLICE C&",
   "aS REVOLVΨL^uOFFIC,mOD.eP DIRECTI;+$ATT*GkISOLATEuCORNfRTAB. ST,EOnSEID;fITI; *DICATORpT+ HORN",
   "eM&K_FACEmBOXfT OF FOODiAB. WAT,εqTOdTπPL<TkUCHcLTRY .GiND~hRΨLIQUIDlTΨCAT FACEiFACEkW, ;ε",
   "h-OFFεnS.EPεlYMBOLlRAY, BEADSkECEDESa: +MOST EQU+ TOpEQU+S~lNOT +MOST EQU+ TOpEQU+ TO",
   "mS*G.-L*E EQU+S~lNOT EQU+ TObeBUT NOT EQUIV+Δ TOvOR EQU+ TOfIV+Δ TOqUND, RELATI;uGN<T M<dP,S;",
   "gWOM<lSCRIPTI; TAKEnΔATI;$ FOR χCOL;dMMAfEM DASHgN DASHgXCLAMAκqυ ELLIPSIStIDEOGRAPHIC COMMA",
   "fFULL STOPv.FT <G.θnBLACK .NTICUL&θyCORN,θnURLYθnΦ <G.θuP&ΔHESISlSQU&EθoTORTOISE SHELLθ",
   "wWHITE CORN,θo.NTICUL&θbcOW L*EiQUESκnR^ <G.θnBLACK .NTICUL&θyCORN,θnURLYθnΦ <G.θuP&ΔHESIS",
   "lSQU&EθoTORTOISE SHELLθwWHITE CORN,θo.NTICUL&θeKCETbeSEMICOL;jTWO DOT .AD,oWAVY LOW L*EbpTZEL",
   "eVIOUS PAGElIMEcNCEaSSeT SCREENεo,_IC;jVACY MESSAGEkTE USE ;EdTWOe-1b2lOBΨC<EjHIBITED~mJECTIVE",
   "hP,TY L*EjORTI;a+ TOmS,P*AjS+T, PAHLAVI FOUR DOTS %CROSSfDOTsμ+EPHfBETHeD+ETHgGIMELfHEaTHeKAPH",
   "eLAMEDHgMEM-QOPHiNUNdPEcSADHEdMEKHfH*eTAWdWAW-AY*-RESHnYODHeZAY*mNUMB, FOURe;E_φlTENcHREEeWΔY",
   "eOkSECκmTURNπSECκbiU1b2bBLIC ADDRESS LOUDSPEAK,yNCTUATI; SPACElS E.VATUS M&KtRP. HE&TjSEdSHP*",
   "fT LITT, * ITS PLACEεbeQUADR<T LOW, .FTeR^lUPP, .FT_<D LOW, .FT <D LOW, R^uR^",
   "lUPP, R^ <D LOW, .FTeR^bkR^_<D LOW, .FT_<D LOW, R^buUP. *TEGR+ OP,ATORrPRIMEmRT, NOTE",
   "jT,NI; *TEGR+ OP,ATORbaESTI; EXCLAMAκqM&KfπEQU+ TOr*CUNXgOTAκoRABBIT_FACEjCCO;eΨC&dMOTORCYC.",
   "pDIC+ε BOTTOMrO_BUTT;hACTIVE~oILWAY C&dTRACKkNaBOWeSπBACK OF H<DmCOMMAfDOTaTπ*T,POLAκ,bbFIST",
   "eH<D_%F*G,S SPLAYEDpP&T BETWEEN Λ<D RΨF*G,Sbu*T,POLAκ,uMC~gD~gR~hSQU&ElMbTaIOdZOReECEIPT",
   "eORD SEP&ATORnREATI;+ VEHIC.rYC.D PAP,εp*Gε FOR GEN,IC MAT,I+SrTYPE-1 PLASTICSk2 PLASTICS",
   "k3 PLASTICSk4 PLASTICSk5 PLASTICSk6 PLASTICSk7 PLASTICSbiD APP.fGIFT ENVELOPEpF,ENCE M&K",
   "mGI;+ *DICATORε .TT,γbZbeST,ED~nJ<G C;S;<T~ HbNaGcRqμAbBAcCAcDAcGAcHAcJAcKAcLAcMAbBAdNAbDAcGA",
   "bGAdYAbJAePAcRAcSAcTAcWAcYAjSECκmVIRAMAfOWEL~ AIbUcEaAbUcIbObUrLIEVπFACElM*D, RIBB;",
   "nPLACEMΔ CH&ACT,tSP;SEfTRICTπ.FT ΔRY-1b2sOOMgTURN .FTeR^fSYMBOLlV,SE CHECK, BO&Dn*DEX",
   "fL^ FOUR PO*TπP*WHEEL ST&beNE FEEDjSOLIDUS_OP,ATORiPRECEDΨSUBSETq%υ ηbeTILDE OP,ATOR: .FTW&DS>",
   "pR^W&DS>bmD <G._%UND,B&tCOMMAfΦ PRIME_QUOTAκuη NOT~wEMPTY SETjFORKπP&AGRAPHOS",
   "sH<D %ΛF*G, EXTENDEDbgNOT~iPILCROW~lRIMEfQUESκnRAISπH<D %F*G,S SPLAYEDbf^ <G.",
   "kOTATπFLOR+ HE&T BUL.TbbS<S-S,IF CAPIT+ LtEMICOL;jTHUMBS DOWN~jUP~nILDE_EQU+SlRIP. PRIME",
   "mVICTORY H<DsOLVΨHE&TSpH*OC,OSjIa+~hBB;a> DOWN .FTeR^k.FT DOWNeUPhR^ DOWNeUPiUP .FTeR^tCE B+L",
   "eCRACK,kF.dGHT <D LOW, ;E E^H BLOCKwUPP, ;E E^H BLOCKyG, BUBB.j._BRACKET_%DOTqDOTTπSUBSTITUκ,",
   "baSUBSTITUκ,tV&I<T %SQU&Et%&CdDOWNW&DS ZIGZAG>bgRC GREAT,-TH<θwROW %CIRC.D PLUSmSM+L CIRC.",
   "xBLACK .NTICUL&θsTORTOISE SHELLθbcCEIL*GgORN,θnURLYθ_LOW, ΞkΛPIECEmUPP, ΞyDOTTπSUBSTITUTI;θ",
   "zUB. <G.θmRROW %ROUNDπHEADxP&ΔHESISlQUOTAκoWIGGLY FENCEtFISH TAILhVE E^HS BLOCKrLOOR",
   "fH+F BLACK CIRC.gST&iOCKfFOLD,gMEDIUM SHADEmRUNNΨM<oND TE.PH;E RECEIV,xLOW P&APHRASEθ",
   "wNORM+ FACTOR SEMIDIRECT PRODUCTbg;E E^H BLOCKmQU&T, BLOCKqPEN SQU&πDOTpUT, JO*kP&ΔHESIS",
   "_EXTENSI;jLOW, ΞkUPP, ΞwRAISπOMISSI;θxS-SHAPπBAG DELIMIT,vEMIDIRECT PRODUCTqVEN E^HS BLOCK",
   "sIDEWAYS UθqNG. QUOTAκuPEAK,_%;E SOUND WAVEoTHREE SOUND WAVESbbECH BUBB.mQU&Eθ_EXTENSI;",
   "jLOW, CORN,mUPP, CORN,m%Φ ηnQUILLfηgTICK * BOTTOM CORN,nTOP CORN,sUND,B&bbUBSTITUTI;θuTACK",
   "dHIRD WHITE R^ PO*TΨ*DEXbeOUGHT BUBB.mREE E^HS BLOCKnQU&T,S BLOCKtORTOISE SHELLθvR<SPOSITI;θ",
   "tI<G.a: .FT TRI<G.wUL& ;E QU&T, BLOCKbcχB& %QUILLnOX L*ErWHITE CORN,θnURLYθn.NTICUL&θsP&ΔHESIS",
   "lSQU&EθoTORTOISE SHELLθbbIGGLY FENCEn-FACΨ&MENI< ET,NITY~wFISTeSVASTI~_%DOTS",
   "bcH<Dπ*T,LACπPΔAGRAMbbPO*TΨ<G.θnCURVπ<G.θuΦ <G. QUOTAκbbMAGNIFYΨGLASSzSHADπWHITE R^W&DS>",
   "bcIDE &C CLOCKWISE>yTO-.FT EMBEDD*GjISOLATEhM&KeOV,RIDErH<D *T,IOR PRODUCTvW&DS>",
   "a: +MOST EQU+ TOpREV,SE +MOST EQU+ TOpTILDE OP,ATORwSHORT .FTW&DS>vTILDE OP,ATOR",
   "tND UPP, <D LOW, ;E E^H BLOCKbkFROM B&_TO BLACK DIAM;DzOV, .FTW&DS>uTHROUGH GREAT,-TH<mSUP,SET",
   "iXiO B&cLACK DIAM;Dq%CORN, DOWNW&DSqDOTTπSTEMjUB. χηwEQUILAT,+>HEADvΞeL&GE TRI<G.>HEADxOOP",
   "eMEDIUM TRI<G.>HEADzNOTCHπTAILmPLUS δkSM+L EQUILAT,+>HEADvTRI<G.>HEADxTROKEgTAIL_%Φ χηwχη",
   "yIP DOWNW&DSjUPW&DSlχηv-TAILkBACK-TILTπSHADOWπWHITE>bfLACK>fCIRC.D WHITE>yOTTOM SHADπWHITE>",
   "zCOMPRESSED>qDASHED>lOUB.>_FROM B&i%ηgχηv-TAILkDASH>rF*G,-POST>qR;T-TILTπSHADOWπWHITE>bhH<D",
   "cRPO; OV, .FTW&DS H&PO;w%B&B DOWN: .FTW&DS H&PO; %B&B DOWNbmδ L;G DASHpFROM B&iTO B&hW&DS",
   "jUP: .FTW&DS H&PO; %B&B UPbd;G DASHjR^W&DS H&PO; %B&B DOWNbnFROM B&iTO B&hW&DSyEAVY>",
   "fCOMPRESSED>w.FT-SHADπWHITE>xOPEN-HEADED>rPAIRED>SnQUADRUP.>pR^-SHADπWHITE>xOCKETgS<S-S,IF>",
   "pQU&ED>kIGG.>oTOP SHADπWHITE>vRI<G.>HEADk-HEADED>_OV, .FTW&DS TRI<G.-HEADED>bkTO B&",
   "g%BOLD SHAFTkΦ υ ηrχηwHEAVY SHAFTlL;G TIP DOWNW&DSjUPW&DSqMEDIUM SHAFTmN&ROW SHAFT",
   "mV,Y HEAVY SHAFTbbDASHED>mPAIRED>SbaP.>fDASH>qWO HEADED>n-HEADED> FROM B&i%Φ χηwTAIL_%Φ χηwχη",
   "yRI<G.>HEADStχηbaTRIP. DASH>bcWAVE>jHITE>_FROM W+LjWITH* TRI<G.>HEADbuNGa:fBUOYeEQU+ TO",
   "i* EQU+ TOlOP,ATORiPO*TgπPL<ETjΨBELLkSΨDIAG;+ CROSSΨF+LΨDIAG;+qSOUTH EAST>bo.bIbMbO",
   "cOASTπSWEET POTATOsBOT FACEiCKaETeLL OF PAP,jED-UP NEWSPAP,oR COAST,hSKATE",
   "iΨ; THE FLOOR LAUGH*GbbM< AS~hCΔURI+~oDEN&IUS~mIMIDIA SEXTULA~tUP;DIUS~oNUM,+ E^e.VENgFIFTY",
   "_E&LY$kξmVE_φhξmOUReN*Ee;E_φ_ξqξ_C DqREV,Sπ;E φuSEVENeIX_LATE$nTEN_ξlHREEeWELVEeOlQU*&IUS~",
   "oSEMUNCIA~lST,TIUS~nXT<S~iULA~lILIQUA~mUNCIA~oOST,fSEaTTEfTATπCAPIT+ QjFLOR+ HE&T BUL.T",
   "tHEAVY BLACK HE&T BUL.TyL^ FOUR PO*TπBLACK CUSPbdWHITE FOUR PO*TπCUSPbdUND PUSHP*hT&GET",
   "hEDε FOR CAIdFUcLUcSHOUcU<GXIiXItWBOATgSbUB.~iGBY FOOTB+Lm.-DELAYEDkMI DIGIT E^fFIVEdOUReN*E",
   "e;EdSEVENeIXdTHREEeWOjFRACTI; ;E H+FeQU&T,hTHIRDjTWO THIRDStNUMB, E^ φiYgFIFTYdVE φlORTYdUR φ",
   "mN*E φiTYg;E φlSEVEN φiTYgIX φiTYfTENcHIRTYeREE φmWΔYeO φvNIC &LAUGεnBELGTHORε",
   "pCROSS PUNCTUATI;rμAC AdESCdLGIZ EOLHXkNSUZ AhB,K<< BEORC BJ&K< ByCa+CdE+CdNcWEORTHhD",
   "aAGAZ DAEG DlOTTED-LbNbPiEa&cHWAZ EH EjNGcTHdFEHU FEOH FE FnR<KS CASKET ACbESCeEHcIScOSqGa&",
   "cEBO GYFU GjRdHAEGL HfGLAZ HiICEL<DIC-YRlNGaWAZfORcSAZ IS ISS ImWAZ EOHiJ,< JhKaAUN KcA",
   "fLAUKAZ LAGU LOGR Lr;G-BR<CH-& AEfHAG+L HiMADR MgOSS OfYRoM<NAZ M< MmNAUDIZ NYD NAUD NrOaEbNbO",
   "bPEN-PfS OdTH+< ETHEL OpP,THO PEORTH PpQbRAIDO RAD REID RqSHaORT-TWIG-& AeBJ&K< BjHAG+L H",
   "iMADR MgNAUD NgOSS OfSOL SfTYR TfYRmIGEL L;G-BR<CH-SOL SwOWILO ShT<eTHURISAZ THURS THORN",
   "tIWAZ TIR TYR TpURUZ UR UjVbWaUNJO WYNN WmXbYaRcZiMULTIP. PUNCTUATI;uS*G. PUNCTUATI;sTVIMADURε",
   "sN,cΨSHIRT %SASHvPEE~iSSI< ASTROLOGIC+ε B*OVI.iNOVI.gQU*TI.iSΔAG;iTREDECI.jVIG*TI.blS * TRI<G.",
   "mAFETY P*dVESTjGITT&IUSjILBOATgKE BOTT. <D CUPrLT SHAK,hIREeUTΨFACElM&IT< ABBREVIAκrμ+AFeBAA",
   "cITdD+ATfFIcGAM<f*bTbYcKAAFeLABATfMIMdNUNdQUFdRISHeSH<d*GAAThTAAFdITcSAADIYhYUTdZENkM&K DAGESH",
   "gEPΔHETIC YUTo*a-+AFhNEQUDAAhOCCLUSI;nODIFI, μEPΔHETIC YUToIbSHORT AxPUNCTUATI; AFSAAQfNGED",
   "dNAAUfRKA<UgTMAAUgBAUdMELODIC QITSAnNEQUDAAhQITSAfSHIYYA+AAjOF MASHFAATmTURUeZAEFdIQAA",
   "rVOWEL~ AaAcEbIbL;G AaAcEbIbUgOaV,L;G AaAlSHORT AgUKUNfUuNDWICH",
   "fS-S,IF HEAVY Φ COMMA QUOTAκ ORNAMΔbdTURNπCOMMA QUOTAκ ORNAMΔbrLOW Φ COMMA QUOTAκ ORNAMΔ",
   "bu*T,ROB<G ORNAMΔbdRIcTELLITE_<TENNAoURNeURASHTRA C;S;<T~ HA&UuD<DAe#,OjOUB. D<DAmμAaAbIbUcB|",
   "dC|dDAbD|dHAdEaEcG|dHAcIaIcJ|dK|dLAbLAdMAcNAbGAcNAcYAdOaOcP|dRAcS|cSAdT|cT|eUaUcVAbOC+IC LaLcR",
   "aRkYAjSIGN <USV&AiC<DRAB*DUlVIRAMAeS&GAmVOWEL~ AAbIbUcEaEcIaIcOaOcUaUcVOC+IC LaLcRaRbcOPOD",
   "gXOPH;EiC+ESdRFdHOOL_SATCHELmIbOOT,eRPI;cUSgREENcWDRIV,iIPT CAPIT+ BbEbFbHbIbLbMbPbR",
   "jLIGATURE ET ORNAMΔuSM+L EbGbLbOlOLLdUP.gE+bTcC;D PLACE MED+pTI;~iOReDNAdE-NO-EVIL M;KEYpDL*G",
   "gGMΔaπD#,OsLFIEeMICOL;fDIRECT PRODUCT %BOTTOM CLOSEDbhSEXTI.jP&ATEDε",
   "oRIOUS FACE %SYMBOLS COV,ΨMOUTHblVICE M&KkSAME DOThQUIQUADRATEmT M*USfTR<SMIT STATEqWΨNEED.",
   "lXTI.gGCcHADOWπWHITE CIRC.gLAT* CROSSlST&qLLOW P< OF FOODqMROCKfRADA ABBREVIATI;~rC;T*UATI;~",
   "rD<DAe#,OjOUB. D<DAmEKAMdXTRA SHORT VOWEL M&KwHEADηkμAaAbIbUcB|dC|dDAbD|dHAdEbG|dHAcIaIcJ|dK|",
   "dLAbLAdMAcNAbGAcNAcYAdObP|dRAcS|cSAdT|cT|eUaUcVAbOC+IC LaLcRaRkYAjOMcS<DHI M&KkECκ-1b2mP&ATOR",
   "iIGN <USV&AhVAGRAHAiC<DRAB*DUl*V,TπC<DRAB*DUuJIHVAMULIYAlNUKTAfSIDDHAMhUPADHM<IYAlVIRAMAeS&GA",
   "lUTRA M&KkVOWEL MODIFI, M&KnSIGN AAbIbUcEbIaIcObPRISHTHAMATRA EpUaUcVOC+IC LaLcRaRzKcVπICE",
   "gI< μADOcGEcHbIRcREbRAYeSHcWEdBIBdCHURCHgDEADeE&bTcGGcRRdFEEdGAGdHA-HAeUNGeI<cCEcFcJUDGEfKICK",
   "eLOLLeMEASUREgIMEeNUNdOAKcILcNbOZEdRbUTdPEEPeRO&eSObUREeTHEYcIGHeOTdUPcVOWdWOEbOLeYEAbWdZOO",
   "qEEPdIELDdFT *cOUTgNTO SHR*EkPcOCKπFACE %EXPLODΨHEADbdOTΨST&kPPΨBAGSeTROL.YnRT BACKSL<TπSOUTH>",
   "wΔ> PO*TΨDOWNW&DS THEN NORTH EASTbtDOWN TACK_%OV,B&w.FT TACKjR^W&DS>: .FTW&DS>bmSL<TπNORTH>",
   "tUP TACKa: SHORT DOWN TACKv%UND,B&wCAKEeH<D$AT C;T*UΨOV,LAPsDOWN STEPjμOV,LAPoUP STEPtS",
   "dULD,πOPEN BOXqW,eRIMPdUGdUFF. PRODUCTnYcIaDDHAM D<DAeOUB. D<DAmEND OF TEXT M&KqμAaAbI",
   "bLT,NATE UkUcB|dC|dDAbD|dHAdEbG|dHAcIaIcJ|dK|dLAcMAcNAbGAcNAcYAdObP|dRAcS|cSAdT|",
   "bREE-CIRC. +T,NATE IxT|dWO-CIRC. +T,NATE IaIxUaUcVAbOC+IC LaLcRaRkYAjREPETIκ-1b2b3rSECκ Φ R*G",
   "_%RAYSv%CIRC.S <D FOUR ENCLOSURESpRAYSeTWO ENCLOSURESbaΦ CRESCΔSqQUADRUP. CRESCΔS",
   "tRAYS <D DOTTπCRESCΔSjΦ CRESCΔSqTRIP. CRESCΔSbgSEPTUP. CRESCΔSsTRIDΔ <D DOTTπCRESCΔS",
   "qU-SHAPπORNAMΔSbbP. CRESCΔSbgP&ATOR B&dDOTmIGN <USV&AiC<DRAB*DUlNUKTAfSIDDHAMhVIRAMAeS&GA",
   "mVOWEL~ AAbIbLT,NATE UaUlUcEbIaIcObUaUcVOC+IC RaRbaEWAYS BLACK DOWN PO*TΨ*DEXt.FT PO*TΨ*DEX",
   "tR^ PO*TΨ*DEXuUP PO*TΨ*DEXxWHITE DOWN PO*TΨ*DEXt.FT PO*TΨ*DEXtR^ PO*TΨ*DEXuUP PO*TΨ*DEX",
   "beGN OF THE HORNSnWRITΨAIR BLOW SM+L ROTATI;SqΨOUTlSUCK SM+L ROTATI;SqΨ*oBREATH EXH+Eg*H+E",
   "lUSH BETWEENhMULTIP.iS*G.mCHEEKS NEUTR+hPUFFEDgSUCKEDmOL;dMMAfDREAMY EYEBROWS DOWN NEUTR+",
   "mNEUTR+ DOWNeUPkUP NEUTR+zYNAMIC>HEAD L&GEfSM+LpEV,Y OTH, TIMEqFASTeGRADU+hRELAXEDhSIMULT<EOUS",
   "_+T,NAT*GxLOWeTENSEnE&SdXCITEMΔjYE BL*K MULTIP.iS*G.mW*KfBROWS STRA^ DOWNeNEUTR+hUP",
   "rGAZE-FLOORPL<E CURVEDgSTRA^_+T,NAT*GlΦbaW+LPL<E CIRCL*GhURVEDgSTRA^_+T,NAT*GlΦbeLASHES DOWN",
   "eFLUTT,*GkUPjS CLOSEDgH+F CLOSEDgOPENjOPENeSQUEEZEDiWIDE OPENfNΨMOVEMΔ",
   "wFACE DIRECTI; POSITI; NOSE FORW&D TILT*GpUP OR DOWN_TILT*GbuILL MODIFI,-2b3b4b5b6nNG,",
   "fLICK L&GE MULTIP.iS*G.mSEQUΔI+jM+L MULTIP.iS*G.qOORPL<E SHOULD, HIP MOVEbbOREHEAD C;TACT",
   "hNEUTR+hWR*K.DqULL STOPjGRASP BETWEENhMULTIP.iS*G.mHAIRcND-<G._*DEX_ΛLITT.gR*GlRΨLITT._OUT",
   "pTHUMB_*cOUTpLITT. *DEX_THUMB *DEX THUMB_OUTbbUPjΛRΨLITT._*cOUTwRΨDOWN ΛTHUMB *DEX CROSS",
   "bdLITT.rCIRC._*DEX_BΔeH*GEfMIDD._CROSS LITT.hEDhLITT.gR*GeTHUMBmRΨLITT.rLITT. *DEXfUPjΛRΨLITT.",
   "_BΔqUPjRΨLITT.rLAW_FOUR F*G,S C;JO*EDw*DEX THUMB CURVE THUMB *SIDEbeΛRΨLITT. C;JO*ED_SIDE",
   "bhNO THUMBiTHUMB FORW&DhSIDEoUP_FIVE F*G,S SPREAD_OPENy*DEX_RΨLITT.lTHUMB_OPENqΛRΨLITT.",
   "sNO THUMBiOPEN_NO THUMBiTHUMB FORW&DhSIDEpTHUMB FORW&DhSIDEmRLICUE_*DEX RΨLITT. ;uΛRΨLITT. ;",
   "vOPENnFIST_FOUR F*G,S C;JO*πBΔbbHEELe*DEX_BΔ_OV, MIDD.qCUPPEDgH*GED_LOWdΛUP_THUMB SIDEbbMIDD.",
   "_BΔ_THUMB STRA^tC;JO*ED_CUPPED_THUMB FORW&DuH*GED_THUMB SIDEr*DEX BΔkΛBΔlTHUMB FORW&DhSIDE_BΔ",
   "eC;JO*EDbdROSS LITT.hED_THUMB SIDEsH*GED_SPREAD THUMB SIDEyLITT.gRAISπKNUCK.So*G_BΔeC;JO*ED",
   "oSTRA^ THUMB BΔtTHUMB_<G.D_OUTkBΔeCIRC.Dg;JO*πH*GEDpUPPEDgH*GEDfOOKEDmUP SPREAD THUMB FORW&D",
   "beRAISπKNUCK.nΨLITT.lTHUMB <G.D * ΛUPmOUT ΛUPuCIRC.aD ΛUPqUPPπΛUPoRLICUEfVE THUMB *SIDEgUND,",
   "rFORW&D *DEX BΔeSTRA^wΞaπΛH*GEDgUPqSIDE_BOTH BΔj*DEX BΔeH*GElTHUMB BΔeC;JO*EDjDIAG;+zUP ΛH*GED",
   "_THUMB C;JO*EDjSIDEbhLITT. BΔeDOWN_OTH,S CIRC.DoRIPP. CURVEDgSTRA^u*DEX_THUMBlRAISπKNUCK.",
   "oTHUMBeOUCHES THUMBnUPjΛBΔ OV, *DEXpDOWNeLITT.gRAISπKNUCK.nΨLITT.lTHUMB <G.D *DEX UP",
   "iOUT *DEX CROSSEDhUPtCIRC.D *DEX H*GEDgUPpUPPπ*DEX UPpΞπ*DEX UPpLITT.mUP_THUMB SIDEuRΨDOWN",
   "e*DEXfLITT.gMIDD._C;JO*EDjRAISπKNUCK.SwRAISπKNUCK.oTHUMBfUPhTHUMB_BETWEEN *DEX MIDD._STRA^",
   "vΛR*GlRΨLITT.tFORW&DhHEELeOV, FOUR RAISπKNUCK.SuTWO F*G,SqSIDE BΔeC;JO*EDjDIAG;+",
   "nUND, FOUR F*G,Sm*DEX BΔkLITT. UPjTHREE F*G,SmWO F*G,SbbLAT_BETWEEN P+M FAC*GS",
   "uFIVE F*G,S SPREAD_BΔeFOUR BΔjH*GED_NO THUMBiTHUMB SIDErTHUMB FORW&DbgOUR F*G,S_BΔeC;JO*ED",
   "_SPLITpH*GEDtHEEL_FIVE F*G,S SPREAD_BΔeFOUR BΔbdTHUMB SIDEpSPLIT CΔRE_THUMB SIDE_BΔ",
   "w*DEX THUMB SIDEqLITT.mTHUMB BΔeFORW&DhSIDEpH*GE_FIVE F*G,S SPREAD OPENxOUR F*G,S C;JO*EDw*DEX",
   "_H*GEDgΛLITT.gR*G_C;JO*EDvRΨLITT.lTHUMB_L&GEfOPENeSIDEdM+LrLITT._*DEX_THUMBlTHUMBmMIDD.",
   "_RΨLITT.sNO THUMBiOPEN_NO THUMBiTHUMB FORW&DhSIDEpR*G_DOWN *DEX THUMB Ξ MIDD.bhSM+L",
   "fTHUMB BETWEEN ΛR*GtSIDE_TOUCHΨ*DEXbeOOK_CURLICUEi*DEX RΨLITT. *cOUTdUND,xΛRΨLITT. C;JO*ED_*",
   "cOUTzTHUMBmRΨTHUMBpOV+_FIVE F*G,S SPREADt*DEXfLITT. UPjNO THUMBiRΨLITT.lTHUMB FORW&DhSIDEtEAD",
   "_MOVEMΔ CIRC.h-FLOORPL<E CURVEfSTRA^tW+LPL<E CURVEfSTRA^iTILTxRIMiLIMB COMB*ATI;l.NGTH-ζb6b7",
   "lP LOW, OV, UPP,qUPP, OV, LOW,rS PRESSπTOGETH,uOCATI; DEPTHfHEAD NECKh^gLIMBS DIGITSmTORSO",
   "fWIDTHg-FLOORPL<E SPACEqW+LPL<E SPACEyMOUTH CLOSπC;TACThFORW&DhNEUTR+nORN,ShFROWN_OPENeWR*K.D",
   "oKISS_FORW&DhWR*K.DnOPEN CIRC.gFORW&DhOV+_WR*K.DiYAWNjRECT<G._WR*K.DiYAWNoWR*K.DnSMI._OPEN",
   "eWR*K.DoTENSE_FORW&DhSUCKEDmWR*K.S ΦgS*G.tVEMΔ-DIAG;+ AWAY L&GEaSThMEDIUMgSM+L",
   "kBETWEEN AWAY L&GEaSThMEDIUMgSM+LkTOW&DS L&GEaSThMEDIUMgSM+LvTOW&DS L&GEaSThMEDIUMgSM+L",
   "wFLOORPL<E &M CIRC. HITTΨW+L L&GE ΦgS*G.mMEDIUM ΦgS*G.nSM+L ΦgS*G.bkBENDdOX L&GEfMEDIUMgSM+L",
   "jCHECKeORN, L&GEfMEDIUMgSM+LlROSSeURVE COMB*EDiHITTΨCEILΨL&GEfSM+LnFLOOR L&GEfSM+LtL&GEaST",
   "hMEDIUMgSM+LlΦ +T,NAT*G_WRIST F.XwSTRA^iWRIST F.XrF*G, CIRC.S HITTΨW+L ΦgS*G.ba;TACT",
   "oHUMP HITTΨCEILΨL&GE ΦgTRIP.mSM+L ΦgTRIP.uFLOOR L&GE ΦmSM+L ΦmTRIP. L&GE TRIP.mSM+L TRIP.",
   "bhSM+LkJAWdLOOP HITTΨCEILΨL&GE ΦgS*G.mSM+L ΦgS*G.uFLOOR L&GE ΦgS*G.mSM+L ΦgS*G.baSM+L",
   "kPEAKS L&GEfMEDIUMgSM+LlSHAKΨP&+.Lp*G. STRA^ L&GEaSThMEDIUMgSM+LoWRIST F.XrTRIP. +T,NATΨMOVEMΔ",
   "iWRIST F.XwSTRA^ MOVEMΔrWRIST F.XrWAVE HITTΨCEILΨL&GEfSM+LnFLOOR L&GEfSM+LtL&GEfSM+LeNAKE",
   "jRIST CIRC. HITTΨW+L ΦgS*G.bgZIGZAG L&GEfMEDIUMgSM+LxH*GE DOWN SEQUΔI+pSIDE TO SIDE SCISSORS",
   "vUP DOWN +T,NATΨL&GEfSM+LrL&GEfSM+LkSEQUΔI+tW+LPL<E &M CIRC. MEDIUM ΦgS*G.nSM+L ΦgS*G.",
   "xBEND L&GEfMEDIUMgSM+LjOX L&GEfMEDIUMgSM+LjCHECK L&GEfMEDIUMgSM+LkORN, L&GEfMEDIUMgROTATI;",
   "iSM+LlROSSeURVE H+F-CIRC. L&GEaSThMEDIUMgSM+LqITTΨCHESTfFR;T W+LsQU&T, L&GEaSThMEDIUMgSM+L",
   "nTHEN STRA^lREE-QU&T, CIRC. MEDIUMgSM+LbbD CROSS MEDIUMgSM+LsΦ +T,NAT*G_WRIST F.XwSTRA^",
   "iWRIST F.XrF*G, CIRC.S ΦgS*G.n;TACToHUMP HITTΨCHESTfFR;T W+LsL&GEfMEDIUMgSM+LkJAW",
   "dLOOP HITTΨCHESTfFR;T W+LsL&GEfMEDIUMgSM+L_ΦrPEAKS L&GEfMEDIUMgSM+LlSHAK*Gg*G. STRA^ L&GEaST",
   "hMEDIUMgSM+LoWRIST F.XrTRIP. +T,NAT*G_WRIST F.XwSTRA^ MOVEMΔrWRIST F.XrWAVE CURVE Φ L&GE",
   "fMEDIUMgSM+LmTRIP. L&GEfMEDIUMgSM+LsDIAG;+ PATH L&GEfMEDIUMgSM+LtHITTΨCHESTfFR;T W+L",
   "wRIST CIRC. FR;T ΦgS*G.zZIGZAG L&GEfMEDIUMgSM+LbfNECKdOSE C;TACThNEUTR+hWIGG.SgR*K.SnP&ΔHESIS",
   "lROTATI; MODIFI,-10bζb6c2b3b4b5b6b7b8b9l-FLOORPL<E +T,NAT*G_HITTΨCEIL*GhFLOORzΦ_HITTΨCEIL*G",
   "hFLOORuS*G._HITTΨCEIL*GhFLOORbfW+LPL<E +T,NATEbΨHITTΨCHESTfFR;T W+LbeΦ_HITTΨCHESTfFR;T W+L",
   "zS*G._HITTΨCHESTfFR;T W+LbrUB BETWEENhMULTIP.iS*G.kSEMICOL;iHOULD, HIP POSITI;SjSP*E",
   "jTILTΨFROM WAISTbaQUEEZE FLICK +T,NAT*GrL&GE MULTIP.iS*G.mSEQUΔI+jM+L MULTIP.iS*G.",
   "tTRIKE BETWEENhMULTIP.iS*G.mURFACE BETWEENhSYMBOLSpTEETH_BITE LIPSjMOVEMΔi; LIPS_MOVEMΔnT;GUE",
   "_MOVEMΔwNSE CHEEKS HIGHeLOWdMIDD.s;GUE CΔRE *SIDE MOUTHmSTICKΨOUTt*SIDE MOUTH RELAXED",
   "uLICKΨLIPSmMOVES AGA*ST CHEEKtSTICKΨOUT F&qTIP BETWEEN LIPSmTOUCHΨ*SIDE MOUTH",
   "beRSO-FLOORPL<E TWIST*GtW+LPL<E CURVπBENDlSTRA^ STRETCHbeUCH BETWEENhMULTIP.iS*G.",
   "lRAVEL-FLOORPL<E ROTATI;-FLOORPL<E +T,NAT*GlΦgS*G.rW+LPL<E +T,NAT*GlΦgS*G.zSHAK*G",
   "sW+LPL<E &M SPIR+ ΦgS*G.gTRIP.rROTATI;-FLOORPL<E +T,NAT*GlΦgS*G.rW+LPL<E +T,NAT*GlΦgS*G.",
   "zSHAK*GyUPP, BODY TILTΨFROM HIP JO*TSbiW+LPL<E SHOULD, HIP MOVEblLHOUETTE OF JAP<",
   "rMIL&: GREAT,-TH<: EQU+S~be.SS-TH<: EQU+S~bhM*US SIMIL&nOR GREAT,-TH<m.SS-TH<sNE WAVE",
   "gG. CH&ACT, *TRODUC,uGRAPHIC CH&ACT, *TRODUC,bcHIGH-REV,SED-9 QUOTAκbe.FT-PO*TΨ<G. QUOTAκ",
   "bhOW-9 QUOTAκuR^-PO*TΨ<G. QUOTAκbjSHIFT THREEeWOk-SHIFT-2b3lH+A &CHAIC DIGIT E^fFIVEdOUReN*E",
   "e;EdSEVENeIXdTHREEeWOjNUMB, E^YgFIFTYeORTYfN*ETYg;E φhξmSEVΔYgIXTYfTENcHIRTYfWΔYvμAAY<NA",
   "gEEY<NAgY<NAgIY<NAgLPAPRA<A BAY<NAhCAY<NAhDAY<NAgDAY<NAiGAY<NAhJAY<NAhKAY<NAhPAY<NAhTAY<NA",
   "gTAY<NAsMBA BAY<NAlUY<NAgY<NAgD<TAJA LAY<NAhNAY<NAhSAY<NApEEY<NAgY<NAgFAY<NAhHAY<NAhIIY<NA",
   "gLUUY<NAgY<NAhRUUY<NAgY<NAhY<NAgK<TAJA NAASIKYAYAsMAHAAPRA<A BAY<NAhCAY<NAhDAY<NAgDAY<NA",
   "iGAY<NAhJAY<NAhKAY<NAhPAY<NAhTAY<NAgTAY<NAsY<NAgUURDHAJA LAY<NAhNAY<NAhSAY<NArOOY<NAgY<NA",
   "gRAY<NAhS<YAKA DAY<NAgDAY<NAiGAY<NAhJAY<NApTA+UJA NAASIKYAYAkS<YOOGA NAAKSIKYAYAsY<NApUUY<NA",
   "gY<NAgVAY<NAhYAY<NAnITH D#,OpPUNCTUATI; KUNDD+IYAwSIGN +-LAKUNAiNUSV&AYAkC<DRAB*DUlVIS&GAYA",
   "oVOWEL~ AELA-PILLAkDIGA AEDA-PILLAkGAETTA-PILLAkY<UKITTAlIS-PILLAiKOMBUVAhPAA-PILLA",
   "oGAETTA-PILLAkY<UKITTAlKETTI AEDA-PILLAkIS-PILLAiPAA-PILLAoOMBU DEKAfVA_HAA AELA-PILLA",
   "kDIGA AELA-PILLApGAY<UKITTAboX PET+.D BLACK <D WHITE FLORETTEbgO*TπBLACK ST&kP*WHEEL ST&",
   "nST& %ΛDOTbd-P,-EM SPACEnTEEN PO*TπAST,ISKxKATEBO&DiI <D SKI BOOTn,dULL_<D CROSSB;ESrNK",
   "eL<TπEQU+ TO OR GREAT,-TH<_%DOT *SIDEbc.SS-TH<_%DOT *SIDEblNORTH> %ΞπHEADjRIZ;T+ TAIL",
   "blV;IC AST,ISKpEDbEPΨACCOMMODATI;nFACEeSYMBOLkY FACEiUTH OR SPYlICE OF PIZZAlGHTLY FROWNΨFACE",
   "nSMILΨFACEtOPEbΨL&GE <DdORnT MACH*EiHeM+L AIRPL<EhMP,S<DiST,ISKiBLUE DIAM;DmCOL;dMMAb,CI+ AT",
   "lNTA*S AS MEMB,j%OV,B&hχB& AT END OF υ ηccDOLL&~lE.MΔ OF_%OV,B&hχB& AT END OF υ ηcdM DASH",
   "gQU+S~kXCLAMAκqFULL STOPjGREAT,-TH<~rHYPHEN-M*USmIDEOGRAPHIC COMMAr.FT CURLYθnP&ΔHESIS",
   "lTORTOISE SHELLθzSS-TH<~oNUMB,~lOR<GE DIAM;DoP,CΔ~lLUS~jQUESκnREV,SE SOLIDUSo^ CURLYθnP&ΔHESIS",
   "lTORTOISE SHELLθbbOM< NUM,+ E^e.VENgFIFTYdVE_φlOUReN*Ee;E_φhξmSEVENeIXdTENcHREEeWELVEeO",
   "rSEMICOL;jTILDEeWO DOTS OV, ;E DOT PUNCTUATI;bhVEE %UND,B&s, TH<_OR EQU+ TOvSH PRODUCTlI.",
   "bΨCAT FACE %HE&T-SHAPπEYESrOPEN MOUTHyFACE %H+OdE&T-SHAPπEYESqORNSfOPEN MOUTH_<D COLD SWEAT",
   "kSMILΨEYESmT^LY-CLOSπEYESbiSMILΨEYES_<D H<D COV,ΨMOUTHtTHREE HE&TSbcUNGLASSESkTE&tRKΨFACE",
   "lOK*GεnNAILcKEdEEZΨFACElOW CAPPπMOUNTA*qBO&D,hFLAKEfM<_WITHOUT SNOWtOaCC, B+LiKSdFT HYPHEN",
   "gICE CREAMjSHELL FLOPPY DISKsB+LeW&E-FUNCTI;εwGDI< COMB*ΨCURVE:fδlDOT:fδjΞ:fδkL;G Ξ δpRESH δ",
   "kη δmTWO DOTS:fδy*DEPENDΔ SH*qμ+EPHeY*eBETHeFETHeGIMELfHEaTHeKAPHeLAMEDHfESHeMEMdNUNdPE",
   "cRESH-AY*jSADHEdMEKHfH*eTAWdWAWdYODHeZAY*mNUMB, ;E_φlTENcWΔYnPUNCTUATI; CIRC. %DOT",
   "pH+F CIRC. %DOTuTWO CIRC.S %DOTSrχB&S_%DOTSbtHbLID QUILT SQU&E ORNAMΔ_* BLACK SQU&EbmUS_%OV,B&",
   "sM~g; %R^W&DS>:beRA SOMPENG D#,OkμAHcBAHdCAHdDAHdEEHcHcGAHdHAHdIHcJAHdKAHdLAHdMAEbHdNAHcGAH",
   "dYAHeOHcPAHdRAHdSAHdTAHdUHcVAHdYAHvSbUND RECORDΨCOPYR^wTH EAST>_<D SOUTH WEST>",
   "uCROSSΨNORTH EAST>zTO CORN,j%ΞpBLACK>lΦ>mPO*TΨBUDd.AFeV*E .AFsS<S-S,IF>qTRI<G.-HEADED>_TO B&",
   "bcWHITE>qWEST>_<D NORTH WEST>u%ΞpBLACK>lΦ>mPO*TΨBUDd.AFeV*E .AFsS<S-S,IF>qTRI<G.-HEADED>_TO B&",
   "bcWHITE>uYOMBO CLUST,-*ITI+ μLAcRAcS|baF*+ C;S;<T~ -AcBbDbGbKbLbMbNaGcRbSaHxGEM*Aκ",
   "pHEAD M&K %MO; <D SUN_<D FLAMEfTRIP. FLAMEbsμ-AcAbB|dC|dDAbD|dHAcZAdG|dHAcJ|dK|cSSAeLAcMAcNA",
   "bGAcNAcYAdP|dRAcS|cSAdT|cS|dT|eVAcYAcZ|kM&K Φ SHADlPLUTAfSHADeTSHEGkSIGN <USV&AiJIHVAMULIYA",
   "lUPADHM<IYAlVIS&GAlUBJO*,jT,M*+ M&K-1b2pVOWEL .NGTH M&KlSIGN AIbUcEbIbOaEcUaEcVOC+IC LbRbbPaA",
   "aCEcGHETTIgRK.aScΨHE&TnEAK-NO-EVIL M;KEYp,_%C<CELLATI; ηt;E SOUND WAVEoTHREE SOUND WAVES",
   "zΨHEAD * SILHOUETTEyECH B+LO;kDBOATgSMILO~lH,IC+ <G._OPENΨ.FTeUPyID,_WEBhR+ C+END& PAD",
   "mNOTE PADiSHELLkLASHΨSWEATεu;GEdOL OF THREADlNcRTS MED+jUTΨWH+EnQU&E A OV, Mh&UdMbNPEAePAATO",
   "fRUHUAfUcBA&,UfRcEETAeIRUdORUTOfQbUSSY,UiC OV, KGi+bPcCbDbM_CUBEDfSQU&EDjOaRPORATI;kUPdDAaASU",
   "eBbESIdJbLbM_CUBEDfSQU&EDjORUeEEKAAeRA NAME HEISEIgMEIZIfREIWAfSYOUWAgTAISYOUoGcSUKUUDOhVcFM",
   "bOOTcUR CORN,SmG+bNMAdR;eBbHZcIGAcNIIdRUDAAgPAcURAMUaT;iYcHAaITUeEKUTA&UhRUTUfGbIRAG<A HOKAm;",
   "b;bRUePaAcU&ADDOgIITOeR<eZcIMAGE OF_OR EQU+ TOiNOT EQU+ TOxNa*GUeTIdUcK OHMeAaIRIdRATTOeORIIgB",
   "bC+dEESUeGbHZcIROaGURAMUgMEETORUhWATTOiKbLbM_CAPIT+gUBEDfSQU&EDjOOPOdRUNAfPAcTbURO;EeUZEIROiV",
   "bWbYURIIg.FT OPEN BOX OP,ATORvMbNbOGbZENGEgXcM CUBEDfOHMcV, S_SQU&EDoSQU&EDiAaHHAdIKUROeRU",
   "dNSY;fRUKUfB_SM+LhEETORUfGAaT;gGbHZcIKUR;fLbRIaBA&UiLbM_CUBEDfSQU&EDjOLcPAcSbU AbFbGbLbMbSbVbW",
   "dV_MEGAgW_MEGAhNAaNOdFbMbOTTOeSbVbWc;SUdOMUdRIG*+ OF_OR EQU+ TOiNOT EQU+ TObaVcPA_AMPSfASΔOfTU",
   "eCbEEZIdNIHIdSUdSOdFbHbIASUTORUhKObURUfMbO*TOeNDOdSITI; *DICATORrPMcRbSbVbWcRAD_OV, S_SQU&ED",
   "rEMUcNTOGENh^ OPEN BOX OP,ATORvRAcTTORUgOOTdUPIIdUBURUhSAIKURUfNTIIMUhΔIbOeIR*GUgRbVcT&GETfHZ",
   "c;dU;dV OV, MiWATTOeBbITH BOTTOM H+F BLACKrC;TOURπOUTL*ErDIAG;+ CROSSHATCH FILLyυ FILL",
   "p.FT H+F BLACKoOW, .FT DIAG;+ H+F BLACKyR^ DIAG;+ H+F BLACKbfORTHOG;+ CROSSHATCH FILL",
   "baR^ H+F BLACKqTOP H+F BLACKoUPP, .FT DIAG;+ H+F BLACKtTO LOW, R^ FILLyR^ DIAG;+ H+F BLACK",
   "tTO LOW, .FT FILLbeχFILLsYAADOcRUeU<fD AST,ISKiCJK UNIFIπIDEOGRAPH-4E00b9c2Dc8CcA4e518Dd21Dc4D",
   "c72d3CCcF3d408c39d5B6d8F0d91Ac29dB57dDE6dF8Ce624Bc53c95d307c55d599cB0d620d708b9dE80dF14e7121",
   "d51Fc33d981dA7AdD42e89E3dCA9dD70e904Ad14DzLbOOLeDOT OP,ATORmE^ KhF+LΨDIAG;+ SLASHvIVE PO*T ;E",
   "nOUR DOT PUNCTUATI;pKfREEeHCbDRcI-RESfVcIDcKATAK<A DEcKOKOeSAkEYdLAT* CAPIT+ .TT,γbZqSM+L μD",
   "tOGIC+ <DdORiSS.SSiM*USeVcNEWcGcOKbNE HUNDRπTWΔY PuPLUSdPVdRISΨDIAG;+ SLASHvS+TIREgD",
   "bEC;D SCREENlVEN PO*T ;EoHVcIXTY PgM+L CIRC.lOScQU&EfScTHREE DgIMESeWΔY-TWO PO*T TWOsO KfUHD",
   "cP %EXCLAMAκyVODcScWCgT BLACK R^W&DS>zIDeS2b3bAcTaADIUMeFF OF AESCULAPIUSlH,MESmMPπENVELOPE",
   "nNDΨP,S;mR <D CRESCΔmEQU+SgOF DAVIDhP,ATORi%.FT H+F BLACKpR^ H+F BLACKwT OF GU&Dπ&EAmHEAD*G",
   "hPROTECTπ&EAoSE.CTπ&EAmTR*GgTEXTkTI;dUE OF LIB,TYpEAM LOCOMOTIVElΨBOWLkNOGRAPHIC FULL STOP",
   "tTHOSCOPEjICK FIGURE_.<Ψ.FTeR^n%&MS RAISEDlDRESSvOCK CH&TiPWATCHhRA^ RUL,gNESSiWB,RY",
   "hESS OUTL*πWHITE ST&xICTLY EQUIV+Δ TOsNG T,M*ATORpSbUDIO MICROPH;EoFFπFLATBREADoPAdXcUB",
   "aSCRIPT E^eQU+S~lFIVEdOURe.FT P&ΔHESISqM*USfN*Ee;EdPLUS~jR^ P&ΔHESISrSEVENeIXdTHREEeWOdZ,O",
   "kET: R^W&DS>qSUBSETeP,SEToOFa: +MOST EQU+ TOpEQU+S~lNOT EQU+ TOmTILDE OP,ATORuOR EQU+ TO_%DOT:",
   "ba%NOT EQU+ TOu%DOTdMULTIPLICATI;~ δzPLUS~ δxTITUTEiCCEEDSa: +MOST EQU+ TOpEQU+S~",
   "lNOT +MOST EQU+ TOpEQU+ TOmS*G.-L*E EQU+S~lNOT EQU+ TObeBUT NOT EQUIV+Δ TOvOR EQU+ TOfIV+Δ TO",
   "qUND, RELATI;vMMATI; BOTTOMgTOPd%*TEGR+vN_BEH*D CLOUDm%FACEkD<ESE AVAGRAHAiC;S;<T~ PAM*GK+",
   "hNYAKRAeIKUfS<G< MAcWAbaD#,OkμAaEcB|dCAcDAcEaUcFAb*+ KbMhGAcHAcIbJAcK|dLAbEUdMAcNAbGAcYAdObPA",
   "cQAcRAbEUdSAbYAdTAcUbVAcWAcXAcYAcZAjPUNCTUATI; B*DU BA SAT<GAkCAKRAfDA SAT<GAkKA SAT<GA",
   "k.U SAT<GAlP<GL;GhURNAMAhSURYAxSIGN PAMAAEHfNGLAY&fWISADgYECEKiVIRAMAlVOWEL~ PAMEPETfNAELAENG",
   "hEU.UNGhGHULUfOL;GfYUKUzFLOW,gRISE_OV, MOUNTA*StSET OV, BUILD*GStP,H,OeSCRIPT E^eQU+S~lFIVE",
   "dOUReLAT* SM+L μIbNtEFT P&ΔHESISqM*USfN*Ee;EdPLUS~jR^ P&ΔHESISrSEVENeIXdTHREEeWOdZ,O",
   "kET: .FTW&DS>pSUBSETeP,SEToBESIDE <D JO*πBY DASH %SUBSETbeSUBSETnOFa: +MOST EQU+ TOpEQU+S~",
   "lNOT EQU+ TOmTILDE OP,ATORuOR EQU+ TO_%DOT:ba%NOT EQU+ TOuPRECEDΨSOLIDUSr%DOTdMULTIPLICATI;~ δ",
   "zPLUS~ δyVILLA*kRFACE *TEGR+m,eSHIcPENSI; RAILWAYrW<bSH AMP,S<D ORNAMΔwIMM,fUNG DASH",
   "jYLOTI NAGRI μAbBHOcOcCHOcOcDDHOcOcHOcOcEbGHOcOcHOcIbJHOcOcKHOcOcLOcMOcNOcObPHOcOcRObROdSOcTHO",
   "cObTHOcOdUiPOETRY M&K-1b2b3b4nSIGN +T,NATE HAS<TAqNUSV&AiDVISV&AiHAS<TAmVOWEL~ AbEbIbOOcU",
   "xMBOL FOR ACKNOW.DGElBACKSPACEiELLeC<CELeRRIAGE RETURNpDATA L*K ESCAPEpE.TEa$ TWO",
   "nVICE C;TROL FOURe;EdTHREEeWOsEND OF MEDIUMgTEXTdR<SMISSI;_BLOCKxQUIRYgSCAPEgFI. SEP&ATOR",
   "nORM FEEDjGROUP SEP&ATORpυ TABULATI;vL*E FEEDjM&KS CHAPT,nNEGATIVE ACKNOW.DGEsWL*EgULL",
   "eRECORD SEP&ATORqSAM&IT< SOURCEpHIFT *cOUTiPACEeT&T OF HEAD*GhTEXTmUBSTITUTEa$ TWO",
   "sYNCHR;OUS ID.qTYPE A E.CTR;ICSsUNIT SEP&ATORoχTABULATI;bbMETRYgNaAGOGUEgCHR;OUS ID.",
   "oRIAC ABBREVIAκrB&REKHhCOL; SKEWπ.FTeR^qNTRACTI;lDOTTπZLAMA <GUL&hυxEND OF P&AGRAPHpSASA:fδ",
   "lFEM**E DOTmH&K.< AST,ISCUSkMETOBELUSjOBELUSoBASA:fδg-ESASA DOTTEDrORIZ;T+ COL;qμ+APHfBETH",
   "eD+ATHfOT.SS D+ATH RISHtEbF*+ SEMKATHnGAM+_G&SHUNIoHEaTHeKAPHeLAMADHgM+AY+AM BHAdJAcLLAbLAeNGA",
   "cNAbNAdYAdRAcSSAdTTAmIMdNUNdPEaRSI< BHETHfDH+ATHhGHAM+oQAPHeREV,SπPEkISHeSADHEeEMKATHgH*",
   "dOGDI< FEcKHAPHfZHA*mUP,SCRIPT +APHrTAWcETH_G&SHUNInWAWdYUDH_HEhZA*lMUSICfOBLIQUE L*E:fδ",
   "sPTHAHA:fδfDOTTEDnQUSHSHAYAjRBASA:fδkUKKAKHAhWAHAfSUBL*E& COL;_SKEWπ.FTeR^sFULL STOP",
   "rPR+*E& COL;_SKEWπ.FTrFULL STOPvTHREE DOTS:fδpWO χDOTS:fδxZQAPHA:fδfDOTTEDqNGEhT-REXdSHIRTgAB",
   "a. TENNIS PADD. <D B+LbaCOcG AMP,S<DiPOSTROPHEjST,ISKiCIRCUMF.X ACCΔqOL;dMMAb,CI+ ATnD#,O",
   "jOLL&~lEQU+S~kXCLAMAκqFULL STOPjGRAVE ACCΔkEAT,-TH<~rHYPHEN-M*USmLAT* CAPIT+ .TT,γbZ",
   "qSM+L .TT,γbZtEFT CURLYθnP&ΔHESISlSQU&EθrSS-TH<~nOW L*EiNUMB,~lP,CΔ~lLUS~jQUESκlOTAκ",
   "oREV,SE SOLIDUSo^ CURLYθnP&ΔHESISlSQU&EθuSEMICOL;iOLIDUSgPACEfTILDEfχL*Eo+OG μAaRCHAIC RAkBA",
   "cDAcGAcHAcIbKAcLAcMAcNAbGAdPAcRAcSAcTAcUbWAcYAjSIGN PAMUDPODiVIRAMAlVOWEL~ IbUrB<WA μAbBAcDA",
   "cGAcIbKAcLAcMAcNAbGAdPAcSAcTAcUbWAcYAjVOWEL~ IbUtI . μAaIbUEdEaEbHcFAcHAcIbK|dLAcMAcNAbGAdOaO",
   "cP|dQAcSAcT|c;E-2b3b4b5b6fS|eUaEcVAcXAcYAmTHAM COMB*ΨCRYPTOGRAMMIC DOTzNS;<T~ BAcF*+ NGA",
   "jHIGH RATHA OR LOW PAuLA T<G LAIkOW PAgMAbEDI+ LAcRAjSArHORA D#,OpμAbBAcDAcEEcGREAT SAiHIGH C|",
   "dFAcHAcK|cXAdP|dRATHAfS|cSAdT|dYAhIaIcLAaEcLAcOW C|dFAcHAcK|cXAdP|dRATHAfSAcT|dYAfUEdMAcNAbGA",
   "cYAdOOcRAaNAcTAdUEdUaUcWAjSIGN CA<GfDOKMAIgH<GdOYdKA<aKUUgEOWdHUEN T;E-3b4b5h-LUE K&<pMAI K<G",
   "_LAIiSAMdYAMOKjRA HAAMgEV,SπROTATπR<AvSAKOTdTKA<aKUUiW<fT;E-1b2gWI<GaWAAKoTHAM D#,OpVOWEL~ AaA",
   "bEbIcEbIaIcMAI SAThOaA:fδhObYcT+L AAgHAM AIhUaEbUaEtVIET μHIGH BOcCHOcOcDOcFOcGOcHOcKHHOcOcO",
   "cLOcMOcNGOcObYOdObPHOcOcROcSOcTHOcOcVOcYOhLOW BOcCHOcOcDOcFOcGOcHOcKHHOcOcOcLOcMOcNGOcObYOdO",
   "bPHOcOcROcSOcTHOcOcVOcYOnMAI K<GdHITiSYMBOL HO HOIgKOI KOIfNdNUENGfSAMkT;E MAI EKcNUENGfS;G",
   "eTHOmVOWEL AAbMbNbUEcYcEbIaAcObUaAbEaAqKEOUT BOXiRI ABBREVIATI;~rD#,OkμAaAbIbRCHAIC KHAkUcB|",
   "dC|dDAbD|dHAdEbG|dHAcIaIcJ|dK|dLAcMAcNAbGAcNAcYAdObP|dRAbRAdS|dT|cT|eUaUcVAcYAjSIGN <USV&A",
   "iNUKTAfVIRAMAeS&GAmVOWEL~ AAbIbUcEbIaIcObUaUrLLY M&K FIVEe;EmM+EdIL <D ODD~lS:~mU .NGTH M&K",
   "oCREDIT~kURRΔ~mDAY~hEBIT~j#,OjRY CULTIVATI;~uFRACTI; DOWNSC+ΨFACTOR KIIZHy;E E^HbIETHjFIFTH",
   "eORTIETHiH+F-1b2g;E-φ-<D-SIXTIETHyQU&T,hSIXTEΔH-1b2hY-FOURTHmTΔHeHIRTY-SEC;DlREE-φ-<D-TWΔIETH",
   "baWΔIETHnTHREE E^IETHSkQU&T,SiSIXTEΔHSgY-FOURTHSnTWΔIETHSz* POSSESSI;~sL<D~iETT, AaAbIbUcCAcE",
   "aEcHAcIaIcJAcKAcLAbLAbLAeMAcNAbGAcNAbNAdYAdOaOcPAcRAbRAdS|cSAdTAbTAdUaUcVAcYAjM;TH~kNUMB, ;E φ",
   "hξmSIGNeTENkOMcPUNCTUATI; END OF TEXTxRUPEE~kS+T P<~mIGN AAZHAAKKUiNUSV&AiCEVITUgKAACUeURUNI",
   "eZHIfMUKKURUNIhTH+IYAhUVUZHAKKUlNELdPA&AMeNAMdTHAKKUh;dUZHAKKUhVAKAIY&AAiRAAK<hELIdIRAMAeS&GA",
   "lPΔ~jT&TΨFROM~sTOT+~jRADITI;+ CREDIT~lNUMB,~xVOWEL~ AAbIbUcEaEcIaIcOaOcUaUnWET CULTIVATI;~",
   "uYE&~nNABATA TREEkG,*EfSA D#,OkμACbQbWCbQbXbZcXbZcBAcC|dD|dECbQbXbZcFAb*+ NGiG|dHAbTAbTAeICbQ",
   "bXbZcK|dLAb;G UEXiMAbCbQbXbZcNAbGAcHAcYAdOCbQbXbZcP|dRAcS|bORT AWXdUEZjT|cSAdUCbECbQbXbZcICbQ",
   "bUCbQbXbZcXbZcQbXbZcVCbQbXbZcWAcXAcYAcZAmUT COMP;Δ-00ζb6b7b8b9c1!c2!c3!c4!c5!c6!c7!c8!c9!d10!",
   "c1!c2!c3!c4!c5!c6!c7!c8!c9!d20!c1!c2!c3!c4!c5!c6!c7!c8!c9!d30!c1!c2!c3!c4!c5!c6!c7!c8!c9!d40!",
   "c1!c2!c3!c4!c5!c6!c7!c8!c9!d50!c1!c2!c3!c4!c5!c6!c7!c8!c9!d60!c1!c2!c3!c4!c5!c6!c7!c8!c9!d70!",
   "c1!c2!c3!c4!c5!c60bζb6b7b8nIT,AκtPE C&TRIDGEjDRIVEiURUSeXIdEACUP WITHOUT H<D.sPOTdR-OFF C+END&",
   "nDROP-B&BπR^W&DS>xSPOKπAST,ISKwDDY BE&i.PH;E LOCATI;~n; TOP OF MODEMpRECEIV,_%PAGEpORD,iSIGN",
   "kSCOPEfVISI;hUGU AI .NGTH M&KoD#,OkFRACTI; DIGIT ;E FOR EVEN POW,S OF FOURtODD POW,S OF FOUR",
   "baTHREE FOR EVEN POW,S OF FOURtODD POW,S OF FOURbbWO FOR EVEN POW,S OF FOURtODD POW,S OF FOUR",
   "baZ,O FOR ODD POW,S OF FOURbq.NGTH M&KjTT, AaAbIbUcB|dC|dDAbD|dHAcZAdEaEcG|dHAcIaIcJ|dK|dLAbLA",
   "bLAeMAcNAaKA&A POLLUmGAcNAcYAdOaOcP|dRAbRAbRAeS|cSAdT|cSAcT|eUaUcVAbOC+IC LaLcRaRkYA",
   "jSIGN <USV&AhVAGRAHAiC<DRAB*DUkOMB*Ψ<USV&A:oC<DRAB*DU:bbNUKTAfSIDDHAMhTUUMUfVIRAMAeS&GA",
   "mVOWEL~ AAbIbUcEaEcIaIcOaOcUaUcVOC+IC LaLcRaRbaNGE~hNIS RACQUET <D B+LuTcST TUBE",
   "hTRAGRAM FOR ACCUMULATI;lDV<CEgGGRAVATI;kSCΔgB&RI,gOLD RESOLUTI;oR<CHΨOUTnCΔREfH<GEfLOSπMOUTH",
   "hNESSfUREgOMP.TI;fI<CEiNST<CYgTACTdΔI;gR&IETYlD&KEN*GiECISIVENESSkFECTIVENESS OR DISTORTI;",
   "zP&TUREiIFFICULTIESkM*ISHMΔjM*GfV,GENCEjOUBTeUTIESgEASEdMBELLISHMΔmNCOUNT,SiDEAVOURhL&GEMΔ",
   "kT,NITYhXHAUSTI;kFAILUREgL^fOLLOW*GhST,*GiULL CIRC.hNESSiGATH,*G_*lOΨTO MEETmREATNESS",
   "iU&DEDNESSlH&DNESShOLDΨBACKm*CREASEgN,fJOYdKEEPΨSM+Lm*SHIPhLABOUR*GhW OR MODELlEGI;gMASS*G",
   "gEASUREgIREDf; THE V,GElPPOSITI;kPACK*GfTT,NgENETRATI;kURITYgREACHd.ASEfSIDENCEfST<CEhP;SE",
   "hITU+gSEV,<CEi*K*GgTOPPAGEfVEdRENGTHiUNITYfVASTNESS OR WAST*GtWAIT*GfTCHfYOUTHFULNESS",
   "zHA<A AABAAFILIiBAFILIhEBEFILIgEBEEFILIiYBEYFILIjIBIFILIhμA*UdLIFUfBAAdCHAVIY<IjDAADHUeVIY<I",
   "hHA+UgFAAFUfGAAFUeHA*UfNAVIY<IjHAAcHAAeJAVIY<IiKAAFUeHAAeLAAMUeHAVIY<IjMEEMUfNAAcO;UfPAVIY<I",
   "iQAAFUfRAAdSAADHUfEENUeHAVIY<IhEENUgTAVIY<IhHAAaLUfObTAAeVAAVUfWAAVUfYAAdZAAbVIY<IhOjOABOAFILI",
   "iBOFILIgOBOOFILIjSUKUNfUBUFILIlI CH&ACT, <GKH<KHUkBO BAIMAIjCHO CH<aGd*GdOEiDO CHADAfDEKgFO FA",
   "aNeNGM<hHO HIPdNOKHUKjKHO KHAIc;cUATdWAIfRAKH<GiMUTfO KAIgLAKKH<GYAOkO CHULAfL*GgU",
   "cMAI CHATTAWAiEKcH<-AKATiTHOcRIeTAIKHUgYAMOKhO MAfNGO NGUgIKHAHIThO NENcUfO <GfPAIY<NOIiH*THU",
   "fO PH<cUNGfSAMPHAOkO PLAgRO RUAfUcS&A AaAbEbI MAIM+AIeU<jMcEbIaIcObUaEaEcUgO RUSIeS+AdObUA",
   "gTH<THAKHATjO N<GM;THOkPHUTHAOhTHAH<dNc;GdUNGiO PATAKfTAOgWO WAENhYAMAKK<hO YAKc*G",
   "qURRENCYε BAHTuD#,On,E DOES NOT EXISToEXISTShFOREfMODYNAMIChMET,j* GREEK CROSSlS+TIREgPACE",
   "gKΨFACEkRD PLACE MED+p;G S<D+jUGHT B+LO;nREE BUTT; MOUSEmC;SECUTIVE EQU+S~SyDIMENSI;+ <G.",
   "qOT PUNCTUATI;p.FTW&DS>Sp*ES C;V,GΨ.FTeR^wNETWORKπCOMPUT,StPO*TπBLACK ST&sRAYS:fδf.FTeR^",
   "j^W&DS>SrSPEECH BUBB.Sp-D BOTTOM-L^πR^W&DS>HEADbj.FT-L^πDOWNW&DS EQUILAT,+>HEAD",
   "bsR^-L^πUPW&DS EQUILAT,+>HEADbrTOP-L^π.FTW&DS EQUILAT,+>HEADbfR^W&DS>HEADjEQUILAT,+>HEAD",
   "buEM DASHhP,-EM SPACEqUMBS DOWN~jUP~lND, CLOUD <D RA*pSTORMlIBET< ASTROLOGIC+~ -KHYUD PA",
   "jSD;G TSHUGSlGRA GC< -CH& RTAGSbnC<TILLATI;~ C<G TE-UjHEAVY BEATkL^ BEATkSBUB -CH+bcDIGIT E^",
   "fFIVEdOUReH+F E^fFIVEdOUReN*Ee;EdSEVENeIXdTHREEeWOdZ,OjN*Ee;EdSEVENeIXdTHREEeWOdZ,OkKU RU KHA",
   "_BZHI MIG C<wμ-AcAbB|dC|dDAbD|dHAcZ|eFIXED-FORM RAnG|dHAcJAcK|cKAcSSAeLAcMAcNAbGAcNAcYAdP|dRA",
   "bRAdS|cSAdT|cS|dT|eWAcYAcZ|jOGOTYPE~ CHAD RTAGSkLHAG RTAGSyM&K <G KH<G GYASc;",
   "oBKA- SHOG GI MGO RGY<mYIG MGOqSDUS RTAGSjKA- SHOG GI MGO RGY<uUR YIG MGO",
   "nC&ET -DZUD RTAGS BZHI MIG C<mME L;G C<xYIG MGO PHUR SHAD MAzHE MGO",
   "gLOSΨBRDA RNYΨYIG MGO SGAB MAbbYIG MGO SGAB MAxDELIMIT, TSHEG BST&vGT, TSHEG",
   "fYIG MGO -UM GT, TSHEG MAnRNAM BCAD MAqTRUNCATπAxUG RTAGS GYASc;oH+<TA",
   "h*ITI+ BRDA RNYΨYIG MGO MDUN MAbbYIG MGO MDUN MAvT,SYLLABIC TSHEGt.ADΨMCH< RTAGS",
   "tMNYAM YIG GI MGO RGY<wNGAS BZUNG NYI ZLAhSGOR RTAGSuYIS SHADeTSHEG_SHADpP+UTAgRGYA GRAM SHAD",
   "n* CHEN SPUNGS SHADuSBRUL SHADjHADeTRAILΨMCH< RTAGStSA -PHRUhHEG SHADkYIG MGO TSHEG SHAD MA",
   "baSIGN GRU C< RGY*GSlMπRGY*GSp*V,TπMCHU C<rLCE TSA C<jI RTAGSjM& TSHESiCHU C<iNYI ZLA NAA DA",
   "oRDEL DK& GCIGdNYISeSUMeRDEL NAGnNAG GCIGdNYISeSUMeRDEL DK&rJES SU NGA ROnNAM BCADjSNA LD<",
   "iY<G RTAGSiR TSHESnUBJO*πμ-AcAbB|dC|dDAbD|dHAcZ|eFIXED-FORM RAcWAcYAnG|dHAcJAcK|cSSAeLAcMAcNA",
   "bGAcNAcYAdP|dRAcS|cSAdT|cS|dT|eWAcYAcZ|kSIGN *V,TπMCHU C<rLCE TSA C<lMCHU C<wYLLAB. OM",
   "jMBOL DRIL BUhNOR BU_BZHI -KHYILlGSUM -KHYILlNYIS -KHYILsPADMA GD<jHUR PAhRDO RJE_RGYA GRAM",
   "yVOWEL~ AAcEaEcIaIcOaOcREV,SπIaIlUaUcVOC+IC LaLcRaRbbCKETeE OV, *F*ITYpF*AGH C;S;<T JO*,",
   "qμAHAGG& YAZHlY, YAGHjB,B, ACADEMY YAHbJsTAWEL.MET YAZnU&EG YAGHbNcHbKaHcNGcQbZHlYAaAbBaHcCHcD",
   "aDaHcHcFbGaHaHdHaHcJbKaHaHdLbMbNbPbQbRaRcSaHbScTaHbTcVbWbYbZaHbZdEaYcIbObUjMODIFI, μLABI+IZAκ",
   "biSEP&ATOR M&KvG,_FACEhHT TRIFOLIATE SNOWFLAKEyLDE_OP,ATORa: .FTW&DS>pR^W&DS>w%DOT:jRISΨDOTS",
   "z%DOT:fδjR*G:tM, CLOCKhS %.FT H+F BLACKpR^ H+F BLACKzNY_TWO DOTS OV, ;E DOT PUNCTUATI;bkRπFACE",
   "hHUTA ABBREVIATI;~qNJIeD#,OkGV<GfμAaAbIbUcB|dC|dDAbD|dHAdEbG|dHAcIaIcJ|dK|dLAcMAcNAbGAcNAcYAdO",
   "bP|dRAcS|cSAdT|cT|eUaUcVAbOC+IC LaLcRaRkYAjOMcSIGN <USV&AhVAGRAHAiC<DRAB*DUlNUKTAfVIRAMAeS&GA",
   "mVOWEL~ AAbIbUcEbIaIcObSHORT EbOhUaUcVOC+IC LaLcRaRba;I<~ CAPIT+ ETkETpOI.TeKYO TOW,jMATOeNGUE",
   "eOLBOXeTHaBRUSHiP &C <TICLOCKWISE>_%PLUSbdCLOCKWISE> %M*USbeCURLYθnH+F BLACK CIRC.m*TEGR+",
   "i.FT P&ΔHESISqR^ P&ΔHESISrSECTI;~pTd.FT CORN,fROPeH+FθrP&ΔHESISlR^ CORN,fROPeH+FθsSQU&Eθ",
   "oTORTOISE SHELLθw%UPW&DS>:baRTOISE SHELLθπCJK UNIFIπIDEOGRAPH-4E09c8Ce52DDdB89e6253d557d72C",
   "e70B9d6D7baLAT* CAPIT+ μSbtT+ RUNOUTjO μAaEcBAbREATHY AEcEaOcIaUkCHAdDAcEaOcGAcHAcIaUcJAcKAcLA",
   "cMAcNAbGAdObPAcRAcSAcTAcUbWAcYAjSIGN RISΨT;EuRACKB+LfTOReDE M&K~m*cM_C&fNSPLUTOfV,S+ *T,SECTI;",
   "wI<G. %DOT:jROUNDπCORN,SpS,IFS AT BOTTOMqUND,B&o-HEADπR^W&DS>baUL& BUL.TgFLAG ; POSTmRUL,nCOL;",
   "fDΔ EMB.MlGRAM FOR E&THfFIREeHEAVENgLAKEeMOUNTA*iTHUND,hWAT,e*DnP. COL; OP,ATORoDAGG,",
   "gυ B& %Φ χηwTRIP. χηbq*TEGR+iNESTπGREAT,-TH<m.SS-TH<qPLUSdRIMEfSOLIDUS B*&Y RELATI;xTILDE",
   "fχB& B*&Y RELATI;pDELIMIT,jR^ TURNSTI.p%υ ηboOLLaEYBUShPHYcIC+ DR*KfFISHlUE_L^ MO; &TArMPET",
   "gUGRIK~jLIPdMBL, GLASSlRKEYcISH LIRA~oNπAMP,S<DiNG.fBLACK PΔAG;iSHOGI PIECErCAPIT+ FiOMMA",
   "fDAGG,fIGIT THREEeWOjGREEK SM+L μIOTAxNORTH EAST PO*TΨ.AFsWEST PO*TΨ.AFwT~iOK H<D~",
   "mS<S-S,IF CAPIT+ GbLbYtEMICOL;iM+L FgOUTH EAST PO*TΨ.AFsWEST PO*TΨ.AFyWHITE SHOGI PIECEvT.",
   "fWELVE PO*TπBLACK ST&xISTπR^W&DS>SxO AST,ISKS +IGNπV,TIC+LYbcBUTT; MOUSEmC;SECUTIVE EQU+S~S",
   "yDOT .AD,gPUNCTUATI;mS OV, ;E DOT PUNCTUATI;bdHE&TSg*T,SECTΨLOGIC+ <DdORxJO*πSQU&ES",
   "oLOGIC+ <D OP,ATORmOR OP,ATORtMEN HOLDΨH<DSrSPEECH BUBB.SoWOMEN HOLDΨH<DSu-EM DASHlUG&ITIC μA*",
   "cLPAeBETAeDELTAeH+eGAMLAeHA*fHOaTAeIbKAFcHAdLAMDAfMEMdNUNdPUcQOPAeRASHAfSADEcMKAeH*dSUdTET",
   "cH<NAfOcUbWOcYODdZETAdUjWORD DIVID,uMBRELLA_; GROUNDj%RA* DROPSxNAMUSπFACElC,TA*TY~oD,TIEfOε",
   "jICORN FACEj;a: B&: *T,SECTI;w*T,SECTI;sBESIDE <D JO*π%UNI;bc%LOGIC+ ORkM*US~kOV,B&pT SEP&ATOR",
   "kEDεkV,S+ RECYCL*GεyM&RIπP&TN,SHIPεbbP> THROUGH CIRC.pHEAD_BETWEEN TWO υ B&Sbb* A RECT<G. BOX",
   "bcB&B .FT DOWN B&B .FT H&PO;mR^ H&PO;bcR^ DOWN B&B .FT H&PO;mR^ H&PO;biDOWN>_%BASEpBLACK>lΦ>",
   "mS<S-S,IF>qTRI<G.-HEADED>vWHITE>qFISH TAILjR^ DIAG;+ ELLIPSISxTACK_%CIRC.:x-PO*TΨAIRPL<E",
   "iMILIT&Y AIRPL<ErRπTRI<G.mSM+L AIRPL<EiRπTRI<G.sTRI<G. %.FT H+F BLACKpR^ H+F BLACK",
   "boP, <D .FT <D LOW, TRI<GUL& THREE QU&T,S BLOCKbtOW, ;E E^H BLOCKqTRI<GUL& H+F BLOCK",
   "bbR^ <D LOW, TRI<GUL& THREE QU&T,S BLOCKbzBLADE SCISSORSoFIVE E^HS BLOCKsH+F BLOCK",
   "_<D LOW, H+F *V,SE MEDIUM SHADEbpCIRC.g*V,SE MEDIUM SHADE <D LOW, H+F BLOCKbhWHITE CIRC.",
   "uMEDIUM SHADEr.FT BLOCK DIAG;+ LOW, CΔRE TO LOW, ΛR^sUPP, ΛR^mR^v.FT TO LOW, ΛR^sUPP, CΔREgΛR^",
   "baΛ.FT TO UPP, CΔREgΛR^mR^bgUPP, Λ.FT TO UPP, CΔREgR^bvCORN, %DOTpOR LOW, R^ CURLYθ SECTI;",
   "bkQUADR<T CIRCUL& &CvTO LOW, R^ FILLsRI<G.cUL& MEDIUM SHADEbc;E E^H BLOCKmQU&T, BLOCK",
   "rR^ BLOCK DIAG;+ LOW, Λ.FT TO LOW, CΔREgR^bgUPP, CΔRE TO LOW, ΛR^mR^lUPP, ΛR^",
   "bc.FT TO LOW, CΔREgΛR^sUPP, ΛR^baΛ.FT TO LOW, CΔREgΛR^mR^bvDROP-SHADOWπWHITE SQU&E",
   "baOR LOW, .FT CURLYθ SECTI;bjPENCILgQUADR<T CIRCUL& &CvSHADOWπWHITE CIRC.gSQU&E",
   "vTO LOW, .FT FILLrRI<G.cUL& MEDIUM SHADEbdSEVEN E^HS BLOCKtTHREE E^HS BLOCKnQU&T,S BLOCK",
   "tRI<GUL& ;E QU&T, BLOCKbgSIDE-DOWN FACEoW&DS <CORAfRROW_<D R^ ;E E^H BLOCKbaFROM B&",
   "i.FTW&DS OF DOWNW&DS>bcTO B&g%Φ ηnEQUILAT,+>HEADvυ ηrL&GE TRI<G.>HEADyMEDIUM TRI<G.>HEAD",
   "zNOTCHπTAILmSM+L EQUILAT,+>HEADvTRI<G.>HEADyTIP .FTW&DSjR^W&DSzBLACK>fCIRC.D WHITE>",
   "zCOMPRESSED>qDASHED>lOUB.>mF*G,-POST>rH&PO; %B&B .FT BESIDE DOWNW&DS H&PO; %B&B R^",
   "bhUPW&DS H&PO; %B&B R^bmFROM B&iTO B&hW&DSjR^ FROM B&iTO B&hW&DSbbEAVY>fCOMPRESSED>wPAIRED>S",
   "nQUADRUP.>pROCKETgS<S-S,IF>pQU&ED>nTRI<G.>HEADk-HEADED>_.FTW&DS OF DOWNW&DS TRI<G.-HEADED>",
   "bsTO B&g%BOLD SHAFTkΦ υ ηyHEAVY SHAFTlL;G TIP .FTW&DSjR^W&DStMEDIUM SHAFTmN&ROW SHAFT",
   "mV,Y HEAVY SHAFTbbDASHED>mPAIRED>SbaP.>lWO HEADED>n-HEADED> FROM SM+L CIRC.r%TRI<G.>HEADS",
   "bpWHITE>_FROM B&_%υ B&bc; PEDEST+_%υ B&oχB&bdWITH* TRI<G.>HEADbfΦ>_; PEDEST+blR<USfScVAI COMMA",
   "fD#,OkFULL STOPjQUESκnSYLLAB. AaNcBAbEaEcHAbΩaOcUcIbOaOcUcCAbΩaOcUcDAbEaEcHAbEaEcHAbΩaOcUcIbO",
   "aOcUcIbOaOcUcEaEaNcNcFAbΩaOcUcGAbBAbEaEbNcIbOaNbOcUcEaEbNcIbOaOcUcHAaNcEaEbNcIaNcOaNbOcUaNdIaN",
   "cJAbΩaOcUcKAaNcΩaOcPAaNcEaEbNcIbOaOcUcUcLAbEaEbNGTHEN,jIbOaOcUcMAbBAbΩaOcUcEaEcGBAbΩaOcUdIbOaO",
   "cUcNAbDAbΩa. DOcFAcKAcMAcSOOgOcUcEaEcGa<cENcGAbEaEbNcIbOaOcUc;dIbJAbΩaOcUcOaOcUbYAbΩaOcUdOaNbO",
   "aNdPAbΩaOcUcRAbΩaOcUcSAbEaEcHAbΩaOcUcIbOaOcUcTAbEaEcHAbΩaOcUcIbOaOcUcUaNcVAbΩaOcUcWAaNcEaEaNcN",
   "cIaNcOaNbOaNdUaNdYAbΩaOcUcZAbEaEcHAbΩaOcUcIbOaOcUjMBOL B<GeD<GdO-Oc;GfFAAcEENGfJ;GeKEENGeUNG",
   "eNIIdTAAc*Gd;GnMPIREfRIATI; SE.CTOR-1a0a!c1a!c2a!c3a!c4a!c5a!c6a!c7a!c8a!c9a!d2a0a!c1a!c2a!c3",
   "a!c4a!c5a0bζb6c6b7b8b9c3a!c4a!c5a!c6a!c7a!c8a!c9a!uECTOR OR CROSS PRODUCT",
   "vDIC~ <USV&A <T&GOMUKHAmBAHIRGOMUKHAmUBHAYATO MUKHAoVAMAGOMUKHA_%TAILbdRDHAVIS&GAlTIKRAMA",
   "iΦ <USV&A <T&GOMUKHAbcHEXIFORM L;G <USV&AwJIHVAMULIYAlL;G <USV&AnNIHSHVASA",
   "jREV,SπVIS&GA <UDATTAiUDATTAwOTATπ&DHAVIS&GAtTH<G L;G <USV&AuTIRYAKgUPADHM<IYAlVIS&GA <UDATTA",
   "_%TAILsSV&ITAhUDATTA_%TAILyYAJURVEDIC MIDL*E SV&ITAbfT;E ATH&VAVEDIC *DEPENDΔ SV&ITAbgC<DRA:fδ",
   "mDOT δhUB. R*G:kSV&ITAoK&SH<AgTHAKA <UDATTAqPRENKHAhRIGVEDIC KASHMIRI *DEPENDΔ SV&ITAbjNG:",
   "kSH&AfTHREE DOTS δpRIP. SV&ITAnWO DOTS δoYAJURVEDIC AGGRAVATπ*DEPENDΔ SV&ITAbe*DEPENDΔ SV&ITA",
   "tKATHAKA *DEPENDΔ SV&ITA_SCHROED,cfRSIC.fTIC+ B& BESIDE R^ TRI<G.vΦ .FT TURNSTI.",
   "vTRIP. R^ TURNSTI.w%υ ηbaELLIPSISiFOUR DOTSjIDEOGRAPHIC IT,AκbaK<A REPEAT M&K_LOW, H+F",
   "kUPP, H+Fp%VOICπSOUND M&K_UPP, H+FbtL*E_EXTENSI;j%CIRC.:fδmΛDOTuM+E %η~v;E E^H BLOCK-2b3b4b5b6",
   "b7sSIX DOTSiTAB KEYeULATI;_SETnILDEeRAFFIC L^nZIGZAG L*ErY BOLD GREEK CROSS",
   "qHEAVY E^ PO*TπBLACK ST&sSPOKπAST,ISKvFIVE SPOKπAST,ISKuGREEK CROSSlREV,SE SOLIDUSpS+TIRE",
   "gIX SPOKπAST,ISKsOLIDUShWHITE CIRC.gSQU&EsMUCH GREAT,-TH<m.SS-TH<rSTAeIBRATI; MODEmCTORY H<D",
   "kDEO CAM,AgGAMEfCASSETTElETNAMESE +T,NATE READΨM&K CAcNHAYbjWDATA SQU&EnOL*eRGO",
   "dTHKUQI CAPIT+ μAbBBEcEcCEbHEdDEbHEdEaIcFEcGAcH|dIaJEdJEcKAcLAbLAdMEcNEbJEdObPEcQAcREcSEbHEdTE",
   "bHEdUbVEcXEcYbZErSM+L μAbBBEcEcCEbHEdDEbHEdEaIcFEcGAcH|dIaJEdJEcKAcLAbLAdMEcNEbJEdObPEcQAcRE",
   "cSEbHEdTEbHEdUbVEcXEcYbZExOIDπGREEK CROSSqLC<Oe.YB+LhUME *TEGR+oS1a0a!c1a!c2a!c3a!c4a!c5a!c6a!",
   "c7a!c8a!c9a!d2a0a!c1a!c2a!c3a!c4a!c5a0bζb6c6b7b8b9c3a!c4a!c5a!c6a!c7a!c8a!c9a!dTaScULC<US",
   "fG& FRACTI; FIVE E^HShSIXTHSkOUR FIFTHSl;E E^HgFIFTHfH+FeN*THfQU&T,hSEVΔHgIXTHfTΔHeHIRD",
   "jSEVEN E^HSnTHREE E^HShFIFTHSgQU&T,SnWO FIFTHSgTHIRDSkZ,O THIRDSbbWAFF.eNCHO D#,OkμAaAaNaGdNG",
   "cUcBAcCAcDAcEaNcFAcGAcHAcIaNGdJAcK|dLAbLHAeMAcNAbGAcYAdOaNaGdP|dRAcS|dT|cRAcSAdUaENdVAcWAcYA",
   "bIHdZAjNGUN~jT;E KOIaNIfTUPaNIoΨCRESCΔ MO;εuGIBBOUS MO;εyR<G CITI CAPIT+ μAaMbNGcTcBUcDAcEaNN",
   "bYdGAcH&cIYOdOLOcRReIIcKOcNGAAdUNGeOaDDdPUcSIIcSUUeTTEdUCbUcVIYOeWIcYAbObUaJsD#,OkNUMB, E^Y",
   "gFIFTYeORTYfN*ETYgSEVΔYgIXTYfTENcHIRTYfWΔYnOMcSM+L μAaMbNGcTcBUcDAcEaNNbYdGAcH&cIYOdOLOcRReII",
   "cKOcNGAAdUNGeOaDDdPUcSIIcSUUeTTEdUCbUcVIYOeWIcYAbObUaJzN*G~kSTEBASKETjTCHc, BUFF+OhCLOSETgPOLO",
   "eWAVEfMEL;iVE> PO*TΨDIRECTLY .FTeR^bdDASHgΨBLACK FLAGkH<D~jWHITE FLAGoY DASHeL*EdOW L*EiOV,L*E",
   "lXΨCRESCΔ MO;εuGIBBOUS MO;εzE&Y CAT FACEiFACEiDD*GeGE-TAI.D R^W&DS>bbI,STRASS ELLIPTIC FUNCTI;",
   "baGHT LIFT,lST SYRIAC CROSSqH+EdEEL_OF DH&MAkCHAIRεpITE> SHAFT WIDTH ;EdTWO THIRDSbcBUL.T",
   "gCHESS BISHOPιESbqEQUIHOPP,_ROTATπN*ETY DEGREESbhK*GιESbnN^_ROTATπFORTY-FIVE DEGREES",
   "sN*ETY DEGREESo;E HUNDRπTHIRTY-FIVE DEGREESbfTHREE HUNDRπFIFTEEN DEGREES",
   "bcWO HUNDRπSEVΔY DEGREESpTWΔY-FIVE DEGREESbo-BISHOPgQUEENfROOKlPAWNιESboQUEENιESbpROOKιES",
   "boTURNπBISHOPgK*GdN^gPAWNeQUEENfROOKqIRC._C;TA*ΨBLACK SM+L CIRC.bd%DOT R^hWN>kLOW, .FT QUADR<T",
   "nR^ QUADR<TuTWO DOTSiUPP, .FT QUADR<TnR^ QUADR<TbfLUB SUITi;CAVE-SIDπDIAM;D_%.FTW&DS TICK",
   "oR^W&DS TICKbqDIAM;D_C;TA*ΨBLACK MEDIUM DIAM;DoSM+L DIAM;DnV,Y SM+L DIAM;Dbj* SQU&EjSUIT",
   "e%CΔRπDOTxOWN PO*TΨBACKH<D *DEXo*DEXf.FT H<D *DEXz-PO*TΨSM+L TRI<G.oTRI<G.vRAUGHTS K*GeM<",
   "mEXCLAMAκ ORNAMΔzFLAG_%υ ΛBLACK STRIPEbmORETTEfW,fOUR PO*TπCUSPeST&qROWNΨFACE",
   "nH&D SHELL FLOPPY DISKvE&T_SUIThVY CHECK M&KkS+TIRE %ROUNDπCORN,SbgXAG;gORIZ;T+ ELLIPSE",
   "qURGLASSjL&GE SQU&EkT* CROSSkEFT L<E M,GEkPO*TΨBACKH<D *DEXo*DEXp-PO*TΨPO*T,hSM+L TRI<G.",
   "oTRI<G.vOZENGE C;TA*ΨBLACK SM+L LOZENGEbmMEDIUM DIAM;DhLOZENGEhSM+L SQU&ElQU&EfT&kO; SE.NAlNIB",
   "dP&+.LOGRAMmENN<TeTAG;iQUESκ ORNAMΔwRECT<G.i^ PO*TΨBACKH<D *DEXo*DEXp-PO*TΨPΔAG;hO*T,",
   "hSM+L TRI<G.oTRI<G.xSCISSORShESAME DOTjHOGI PIECEkM+L LOZENGEhSQU&EfT&iILΨFACElPADE SUITjQU&E",
   "_BUTT;gC;TA*ΨBLACK MEDIUM SQU&EnSM+L SQU&EmV,Y SM+L SQU&Ebi%CΔRE χL*Eu.FTW&DS TICK",
   "nOW, .FT QUADR<TnR^ QUADR<TuR^W&DS TICKoOUNDπCORN,SpUPP, .FT QUADR<TnR^ QUADR<TuχBISECTΨL*E",
   "biT&dUN_BEH*D CLOUD_%RA*w%RAYSeSM+L CLOUDuTE.PH;EiOUCHT;E TE.PH;EsRAPEZIUM",
   "hI<G. C;TA*ΨSM+L WHITE TRI<G.bnWO-WAY .FT WAY TRAFFICyUP PO*TΨBACKH<D *DEXo*DEXp-PO*TΨCHEVR;",
   "hSM+L TRI<G.oTRI<G._%DOTbdχB&dELLIPSEhRECT<G.pY SM+L SQU&Es-FEATH,πR^W&DS>",
   "bfIDE-HEADπDOWNW&DS B&B>kHEAVY B&B>qL^ B&B>qMEDIUM B&B>rV,Y HEAVY B&B>bf.FTW&DS B&B>",
   "kHEAVY B&B>qL^ B&B>qMEDIUM B&B>rV,Y HEAVY B&B>bfNORTH EAST B&B>kHEAVY B&B>qL^ B&B>qMEDIUM B&B>",
   "rV,Y HEAVY B&B>baWEST B&B>kHEAVY B&B>qL^ B&B>qMEDIUM B&B>rV,Y HEAVY B&B>bgR^W&DS B&B>",
   "kHEAVY B&B>qL^ B&B>qMEDIUM B&B>rV,Y HEAVY B&B>bgSOUTH EAST B&B>kHEAVY B&B>qL^ B&B>qMEDIUM B&B>",
   "rV,Y HEAVY B&B>baWEST B&B>kHEAVY B&B>qL^ B&B>qMEDIUM B&B>rV,Y HEAVY B&B>bgUPW&DS B&B>",
   "kHEAVY B&B>qL^ B&B>qMEDIUM B&B>rV,Y HEAVY B&B>bnGGLY χL*EsLTπFLOW,lND BLOWΨFACEmCHIMEgOW",
   "dE GLASShKΨFACEkRπKEYBO&DnJbOLF FACEhM<_%BUNNY E&SqS BOOTSfCLOTHEShHATdS<D+kENSεlN~gODcRD JO*,",
   "gSEP&ATOR ΛDOTwLD MAPgMbRIπFACElRAPPπPRESΔnEATH PRODUCTlNCHdSTL,ShITΨH<DmX * A RECT<G. BOX",
   "t-RAYeI<GQI BLACK C<N;fH&IOThE.PH<TiGEN,+hHORSEfM<D&*iSOLDI,nRπC<N;fH&IOThE.PH<TiGEN,+hHORSE",
   "fM<D&*iSOLDI,sORdYAWNΨFACElELLOW HE&TkN~gZIDI COMB*ΨHAMZA M&KkMADDA M&KuHYPHENAκqμBEcCHHIMdIM",
   "dIMdDADbLdELIFdTbWbYNdFAcGAFdHAYcHAdJAcKAFcHAFeLAM_%DOT:sMIMdNUNdOWcPEbHEdQAFdR|dSADcEbH*d*dTA",
   "bHEdUMcVA_+T,NATE$rWAWdXAbHEYNfYOT_%CIRCUMF.X:zZAaLcEpI RADIC+ BBUTdURdCHEcIPcUOPdYaPbTdDDURdU",
   "cGAbEPcGOPcUOdOTdHMOcXITcOPcUOeJJIEcUTcYcOcKEbITdLIaEcYRdMIbOPdNBIEdYIPcOPdZUPeOPcPUTcYTdQOT",
   "dSHATcOPcURcYcSIdTATcUcVEPcURdWOcYITcOcZAbOTcUPbRcZIETnSYLLAB. AaνBAaνBAaνEaPbXcIaEaννOaνUaOaP",
   "bXcPbRaXcTbXcYaPbTbXdEaPbXcIaEaννOaνUaOaPbXcPbRaXcTbXcYaPbRaXcTbXdCAaνEaPbXcHAaνEaνOaνUaOaνPbR",
   "aXcXcYaPbRaXcTbXdIaEaννOaνUaOaPbXcPbRaXcTbXcYaPbRaXcTbXdDAaνDAaνEaPbXcIaEaPbXcνOaνUaOaPbXcPbR",
   "aXcTbXdEaPbXcIaEaPbXcνOaνUaOaXcPbRaXcTbXdEaXcFAaνIaνOaPbXcUaPbRaXcTbXcYaPbTbXdGAaνEaνGAaνEaνI",
   "aEaPbXcTbXcOaνUaOaνPbRaXcTbXdIaEaννOaνUaOaνPbRaXcTbXdHAaνEaPbXcIEaXcTcLAaνEaPbXcIaEaPbXcνOaPbX",
   "cUaOaPbXcPbRaXcTbXcYaPbRaXcTbXdMAaνIaEaPbXcνOaνUaOaPbXcPbRaXcTbXcYaPbRaXcXdNAaνEaPbXcIaE",
   "aννOνUOaXcTdOaνUOaPbTbXdXAaνEaPbXcIaEaννOaνUOaPbTbXfIaEaνPbTa,AκnXcJIaEaννJIaEaννOaνUaOaPbXcP",
   "bRaXcTbXcYaPbTbXdOaνUaOaνPbRaXcTbXcYaPbRaXcTbXdKAaνEaνIaEaPbXcνOaνUaOaPbXcPbRaXcTbXdLAaνEaPbX",
   "cIaEaννOaνUaOaνPbRaXcTbXcYaPbRaXcTbXdMAaνEaXcGAaνEaPbXcIEaXdOaνUaOaPbXcPbRaXcTbXdIaEaPbXcνOaνU",
   "aOaνPbRaXcTbXcYaPbTbXdNAaPbXcBAaνIaEaPbXcνOaνUaPbRaXcTbXcYaPbRaXcTbXdDAaνEaPbXcIaEaXcνOaνUaPbR",
   "aXcTbXdEaPbXcGAaνEaPbXcIEaPbXdOaνUOaTbXeIaEaPbXcνJIaEaννOaνUaOaXcPbRaXcXcYaPbRaXcTbXdOaνRAaνE",
   "aνOaPbXcUaPbRaXcTbXcYaPbRaXcTbXdUaOaPbXcPbRaXcTbXcYIaEaννOaνUaOaPbXcPbTbXdZAaνEaXcIaEaPbXcνOP",
   "bXcUaOaXcPbRaXcXcYaPbRaXcTbXeOaνPAaνIaEaPbXcνOaνUaOaPbXcPbRaXcTbXcYaPbRaXcTbXdQIaEaννOaνUaOaνP",
   "bRaXcTbXcYaPbRaXcTbXdRAaνEaPbXcOaνRAaXcEaνOaνUaOaXcPbRaXcTbXcYaPbRaXcTbXdUaOaPbXcPbRaXcTbXcYaP",
   "bRaXcTbXdSAaνEaPbXcHAaνEaνOaνUaOaPbXcPbRaXcTbXcYaPbRaXcTbXdIaEaPbXcνOaνSAaνEaPbXcIaEaPbXcνOaνU",
   "aνYaPbRaXcTbXdUaOaPbXcPbRaXcTbXcYaPbRaXcTbXdTAaνEaPbXcIaEaPbXcνOaνUaOaνPbRaXcTbXdUOaPbXdVAaνEP",
   "bXcIaEaννOaνUaPbRaXcTbXcYaPbRaXcTbXdWAaνEaPbXcOaPbXcUaOaPbXeXIaEaννOaνUOaXdYaPbRaXcTbXdYIaE",
   "aννOaνUaOaνPbRaXcTbXcYaPbRaXcTbXdZAaνEaPbXcHAaνEaνOaνUaOaPbXcPbRaXcTbXcYaPbRaXcTbXdIaEaPbXcνO",
   "aνUaOaPbXcPbRaXcTbXcYaPbRaXcTbXcZAaνEaPbXcIaEaννOaPbXcUaPbRaXcXcYaPbRaXcTbXoN Y<GhO-YO",
   "fZ NOTATI; BAG MEMB,SHIPoDOMA* <TIRESTRICTI;w.FT B*D*GθpIMAGEθsR<GE <TIRESTRICTI;",
   "uELATI;+ COMPOSITI;v^ B*D*GθpIMAGEθtSCHEMA COMPOSITI;lPIP*GfROJECTI;qPOTeTYPE COL;",
   "u<ABAZ& SQU&E CLOSΨΦ-L*πHEAD M&KwHEAD M&KpUST,-F*+ μLAcRAcVAcYAp*ITI+ μRAzF*+ C;S;<T M&K",
   "u*ITI+ Φ-L*πHEAD M&KwHEAD M&Krμ-AcAbB|dC|dDAbD|dHAcZ|eG|dHAcJAcK|cSSAeLAcMAcNAbGAcNAcYAdP|dRA",
   "cS|cSAdT|cS|dT|eVAcYAcZ|kM&K Φ SHADlL;G TSHEGkSHADeTSHEGkSIGN <USV&AiC<DRA %ORNAMΔoB*DU",
   "_%ORNAMΔzVIRAMAeS&GAlUBJO*,jVOWEL .NGTH M&KlSIGN AIbUcEbIbOaEcREV,SπIkUaEbdEBRA FACE",
   "iRO WIDTH JO*,gNO-BREAK SPACEmN-JO*,kSPACEoUSdIPP,-MOUTH FACEqNAMENNY COMB*ΨATTACHΨχOMET",
   "xLOW, T;+ R<GE *DICATORbbM&K BORZAYAhCHASHKA_POLNAYAoURVπOMETlDEMESTVENNY ZAD,ZHKAuVOETOCHIE",
   "kGORAZDO NIZKO ; .FTeR^iS KRYZHEM ; .FTeR^yVYSOKOoKACHKAfRYZH_; .FTmUPNAYAhLOMKA",
   "fM+O POVYSHE ; .FTeR^iS KHOKHLOM ; .FTeR^qRYZHEMiTR<NOuNIZKO ; .FTeR^iS KRYZHEM ; .FTeR^",
   "yOBLACHKOhNbTSECHKAiPODCHASHIE_%χηbcV,TKAhVYSHE ; .FTeR^iS KHOKHLOM ; .FTeR^qRYZHEMiTR<NO",
   "pRAVNOdZSEKAhSKOBAeOROCHYA NOZHKAoREDNE ; .FTeR^oTR<NO M+O POVYSHEuTIKHAYAgOCHKAfSATA ; .FTeR^",
   "iS KRYZHEMpUD&KAgVYSOKO ; .FTeR^iS KHOKHLOM ; .FTeR^qRYZHEMqZAD,ZHKAiELOcVOK",
   "kT;+ R<GE M&K MRACHNOhSVETLOgTRESVETLObkNEUME CHASHKAfELYUSTKAkDEMESTVENNY KLYUCHqRBITSA",
   "hOUB. ZAPYATAYApUDAdVA V CHELNUmFITAeGOLUBCHIK BORZYfMRACHNYhSVETLYgTIKHYeRESVETLYtKHAMILO",
   "gLYUCHfOBYLAfRYUK_TIKHYiZHeUFISMAhMECHIK_KLYUCHENEPOSTOY<NYmPOVODNYhVOYkPOVODNYoNEMKAfOBLAKO",
   "fSOKA_KLYUCHEVAYA NEPOSTOY<NAYAoSVETLAYAtRYUKOVAYA SVETLAYAtSVETLAYAiTRESVETLAYArP+KAdRAKLIT",
   "gUKd,EVODKA_NEPOSTOY<NAYAxODCHASHIEiLKULIZMYkREV,SπCHELYUSTKAsOG",
   "dSKAMEYTSA DVOECHELNAYA KLYUCHEVAYAlNEPOSTOY<NAYAoPROSTAYAiSVETLAYAvKLYUCHENEPOSTOY<NAYA",
   "oVAYA SVETLAYAiTIKHAYAtMRACHNAYAjSVETLAYAiTIKHAYAgRESVETLAYAuLOZHITIE_S KRYZHEMhZAPYATOY",
   "kZAKRYTOErTATYA_NEPOSTOY<NAYAoS DVUMYA ZAPYATYMIqKRYZHEM_I ZAPYATOYsROGOMfZAPYATOY_I KRYZHEM",
   "hPODCHASHIEMyZAKRYTAYA_S ZAPYATOYzOPITSA_S OCHKOMi%SOROCHYA NOZHKAbbRELA DVOECHELNAYA",
   "_KLYUCHEVAYApOKRYZHEVAYAkPOVODNAYA_KLYUCHEVAYAbfGROMNAYA_%S*G. ZAPYATAYAbaOKRYZHEVAYA",
   "_POVODNAYAuPOVODNAYA_%Φ ZAPYATAYAqS*G. ZAPYATAYAbkKLYUCHENEPOSTOY<NAYAoPOVODNAYApRYUKOVAYA",
   "_GROMNAYA_%S*G. ZAPYATAYAbaOKRYZHEVAYA_POVODNAYAuPOVODNAYA_%Φ ZAPYATAYAqS*G. ZAPYATAYA",
   "bkPOVODNAYAjTRYASKApZHEVAYAkMRACHNOTIKHAYAoNEPOSTOY<NAYAoPOLUPOVODNAYAlVODNAYAiROSTAYA",
   "iTIKHAYA PUTNAYAoRYASOGLASNAYAiPOVODNAYAjSTRELNAYAwVRAKHIYA KLYUCHEVAYA MRACHNAYAjPROSTAYA",
   "iSVETLAYAiTRESVETLAYAxMRACHNAYAjPROSTAYAiSVETLAYAiTRESVETLAYAuZ<OZHEKgPYATAYAiMEYTSA",
   "nPRIZNAK MODIFI, DIRECTI; FLIPoKRYZHf.VEL-2b3hROGbcOMBIEfWJbNBSPdJcSP"]

end SourceFacts.Text
