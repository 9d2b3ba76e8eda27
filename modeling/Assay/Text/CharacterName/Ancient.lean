/-!
# Names of characters: ancient

The names of ancient and historic scripts (Unicode 14), in the form that `CharacterName` reads.
-/

namespace Assay.Text

/-- The names of ancient and historic scripts. -/
def ancientNames : String :=
  "=10000aLINEAR_B_SYLLABLE_B008_Au38_Eu28_Iu61_Ou10_Uu01_DAu45_DEu07_DIu14_DOu51_DUv7_JAu46_JE=1
    000Du36_JOu65_JUu77_KAu44_KEu67_KIu70_KOu81_KUv0_MAu13_MEu73_MIu15_MOu23_MUu06_NAu24_NEu30_NIu
    52_NOv5_NUu03_PAu72_PEu39_PIu11_POu50_PUu16_QAu78_QEu21_QIu32_QO=10028u60_RAu27_REu53_RIu02_RO
    u26_RUu31_SAu09_SEu41_SIu12_SOu58_SUv9_TAu04_TEu37_TIu05_TOu69_TUu54_WAu75_WEu40_WIv2_WO=1003C
    u17_ZAu74_ZE=1003Fu20_ZOv5_A2u43_A3u85_AUu71_DWEu90_DWOu48_NWAu29_PU2u62_PTEu76_RA2u33_RA3u68_
    RO2v6_TA2u87_TWEu91_TWO=10050lMBOL_B018t9s22s34s47t9s56s63t4s79s82t3t6t9=10080jIDEOGRAM_B100_M
    ANv2_WOMANv4_DEERv5_EQUIDwF_MAREwM_STALLIONv6F_EWEwM_RAMv7F_SHE-GOATwM_HE-GOATv8F_SOWwM_BOARv9
    F_COWwM_BULLu20_WHEATv1_BARLEYv2_OLIVEv3_SPICEv5_CYPERUSjMONOGRAM_B127_KAPOv8_KANAKOjIDEOGRAM_
    B130_OILv1_WINEv2jMONOGRAM_B133_AREPAv5_MERIjIDEOGRAM_B140_BRONZEv1_GOLDv2v5_WOOLv6u50v1_HORNv
    2v3v4jMONOGRAM_B156_TURO2jIDEOGRAM_B157v8v9_CLOTHu60v1v2_GARMENTv3_ARMOURv4v5v6v7v8v9u70v1v2v3
    _MONTHv4v6_TREEv7v8v9u80v1v2v3v4v5v9u90v1_HELMETt220_FOOTSTOOLv5_BATHTUBu30_SPEARv1_ARROWv2v3_
    SWORDv4v6u40_WHEELED_CHARIOTv1_CHARIOTv2_CHARIOT_FRAMEv3_WHEELv5v6jMONOGRAM_B247_DIPTEjIDEOGRA
    M_B248v9u51v2v3v4_DARTv5v6v7v8v9sVESSEL_B155zb200zd1zd2zd3zd4zd5zd6zd7zd8zd9zc10zd1zd2zd3zd4zd
    5zd6zd7zd8zd9zc21zd2zd6zd7zd8zd9zc50zb305=10100aAEGEAN_WORD_SEPARATOR_LINEwDOThCHECK_MARK=1010
    7hNUMBER_ONEoTWOpHREEoFOURpIVEoSIXpEVENoEIGHToNINEoTENpWENTYpHIRTYoFORTYpIFTYoSIXTYpEVENTYoEIG
    HTYoNINETYoONE_HUNDREDoTWO_HUNDREDpHREE_HUNDREDoFOUR_HUNDREDpIVE_HUNDREDoSIX_HUNDREDpEVEN_HUND
    REDoEIGHT_HUNDREDoNINE_HUNDREDoONE_THOUSANDoTWO_THOUSANDpHREE_THOUSANDoFOUR_THOUSANDpIVE_THOUS
    ANDoSIX_THOUSANDpEVEN_THOUSANDoEIGHT_THOUSANDoNINE_THOUSANDoTEN_THOUSANDpWENTY_THOUSANDpHIRTY_
    THOUSANDoFORTY_THOUSANDpIFTY_THOUSANDoSIXTY_THOUSANDpEVENTY_THOUSANDoEIGHTY_THOUSANDoNINETY_TH
    OUSAND=10137hWEIGHT_BASE_UNIToFIRST_SUBUNIToSECOND_SUBUNIToTHIRD_SUBUNIToFOURTH_SUBUNIThDRY_ME
    ASURE_FIRST_SUBUNIThLIQUID_MEASURE_FIRST_SUBUNIThMEASURE_SECOND_SUBUNITpTHIRD_SUBUNITaGREEK_AC
    ROPHONIC_ATTIC_ONE_QUARTERzcHALFzcDRACHMAxFIVEzFTYzVE_HUNDREDzdTHOUSANDzFTY_THOUSANDzVE_TALENT
    SxTEN_TALENTSxFIFTY_TALENTSxONE_HUNDRED_TALENTSxFIVE_HUNDRED_TALENTSxONE_THOUSAND_TALENTSxFIVE
    _THOUSAND_TALENTSzdSTATERSxTEN_STATERSxFIFTY_STATERSxONE_HUNDRED_STATERSxFIVE_HUNDRED_STATERSx
    ONE_THOUSAND_STATERSxTEN_THOUSAND_STATERSxFIFTY_THOUSAND_STATERSxTEN_MNASrHERAEUM_ONE_PLETHRON
    rTHESPIAN_ONErHERMIONIAN_ONErEPIDAUREAN_TWOrTHESPIAN_TWOrCYRENAIC_TWO_DRACHMASrEPIDAUREAN_TWO_
    DRACHMASrTROEZENIAN_FIVEzdTENzg_ALTERNATE_FORMrHERMIONIAN_TENrMESSENIAN_TENrTHESPIAN_TENzcHIRT
    YsROEZENIAN_FIFTYzi_ALTERNATE_FORMrHERMIONIAN_FIFTYrTHESPIAN_FIFTYzbONE_HUNDREDzbTHREE_HUNDRED
    rEPIDAUREAN_FIVE_HUNDREDrTROEZENIAN_FIVE_HUNDREDsHESPIAN_FIVE_HUNDREDrCARYSTIAN_FIVE_HUNDREDrN
    AXIAN_FIVE_HUNDREDrTHESPIAN_ONE_THOUSANDzbFIVE_THOUSANDrDELPHIC_FIVE_MNASrSTRATIAN_FIFTY_MNASg
    ONE_HALF_SIGNt_ALTERNATE_FORMgTWO_THIRDS_SIGNhHREE_QUARTERS_SIGNgYEAR_SIGNgTALENT_SIGNgDRACHMA
    _SIGNgOBOL_SIGNgTWO_OBOLS_SIGNhHREE_OBOLS_SIGNgFOUR_OBOLS_SIGNhIVE_OBOLS_SIGNgMETRETES_SIGNgKY
    ATHOS_BASE_SIGNgLITRA_SIGNgOUNKIA_SIGNgXESTES_SIGNgARTABE_SIGNiOURA_SIGNgGRAMMA_SIGNgTRYBLION_
    BASE_SIGNgZERO_SIGNgONE_QUARTER_SIGNgSINUSOID_SIGNgINDICTION_SIGNaNOMISMA_SIGN=10190aROMAN_SEX
    TANS_SIGNgUNCIA_SIGNgSEMUNCIA_SIGNiXTULA_SIGNgDIMIDIA_SEXTULA_SIGNgSILIQUA_SIGNgDENARIUS_SIGNg
    QUINARIUS_SIGNgSESTERTIUS_SIGNgDUPONDIUS_SIGNgAS_SIGNgCENTURIAL_SIGNaASCIA_SYMBOL=101A0aGREEK_
    SYMBOL_TAU_RHO=101D0aPHAISTOS_DISC_SIGN_PEDESTRIANuLUMED_HEADtTATTOOED_HEADtCAPTIVEuHILDtWOMAN
    tHELMETtGAUNTLETtTIARAtARROWtBOWtSHIELDtCLUBtMANACLESvTTOCKtSAWtLIDtBOOMERANGtCARPENTRY_PLANEt
    DOLIUMtCOMBtSLINGtCOLUMNtBEEHIVEtSHIPtHORNuIDEtBULLS_LEGtCATtRAMtEAGLEtDOVEtTUNNYtBEEtPLANE_TR
    EEtVINEtPAPYRUStROSETTEtLILYtOX_BACKtFLUTEtGRATERtSTRAINERuMALL_AXEtWAVY_BANDtCOMBINING_OBLIQU
    E_STROKE=10280aLYCIAN_LETTER_AoEoBpHoGoDoIoWoZoTHoJoKoQoLoMoNoMMoNNoUoPoKKoRoSoTpToANoENoHoX=1
    02A0aCARIAN_LETTER_AoP2oDoLoUUUoRoLDoA2oQoBoMoOoD2oToSHq2oSoC-18oUoNNoXoNoTT2oPoSSoIoEoUUUUoKp
    2oNDoUUoGp2oSTq2oNGoIIoC-39oTToUUU2oRRoMBq2q3q4oLD2oE2oUUU3=102E0bOPTIC_EPACT_THOUSANDS_MARKnD
    IGIT_ONEtTWOuHREEtFOURuIVEtSIXuEVENtEIGHTtNINEnNUMBER_TENvWENTYvHIRTYuFORTYvIFTYuSIXTYvEVENTYu
    EIGHTYuNINETYuONE_HUNDREDuTWO_HUNDREDvHREE_HUNDREDuFOUR_HUNDREDvIVE_HUNDREDuSIX_HUNDREDvEVEN_H
    UNDREDuEIGHT_HUNDREDuNINE_HUNDRED=10300aOLD_ITALIC_LETTER_AsBEsKEsDEsEsVEsZEsHEsTHEsIsKAsELtMt
    NtSHsOsPEsSHEsKUsERtSsTEsUsEKSsPHEsKHEsEFtRSsCHEsIIsUUsESSlNUMERAL_ONEtFIVEtTENtFIFTY=1032DlLE
    TTER_YEsNORTHERN_TSEsSOUTHERN_TSEaGOTHIC_LETTER_AHSAoBAIRKANoGIBAoDAGSoAIHVUSoQAIRTHRAoIUJAoHA
    GLoTHIUTHoEISoKUSMAoLAGUSoMANNAoNAUTHSoJERoURUSoPAIRTHRAoNINETYoRAIDAoSAUILoTEIWSoWINJAoFAIHUo
    IGGWSoHWAIRoOTHALoNINE_HUNDRED=10350aOLD_PERMIC_LETTER_ANsBURsGAIsDOIsEsZHOIsDZHOIsZATAsDZITAs
    IsKOKEsLEIsMENOEsNENOEsVOOIsPEEIsREIsSIIsTAIsUsCHERYsSHOOIuCHOOIsYRYtERUsOtOsEFsHAsTSIUsVERsYE
    RvItATsIEsYUtAsIAaCOMBINING_OLD_PERMIC_LETTER_ANzdDOIzdZATAzdNENOEzdSII=10380aUGARITIC_LETTER_
    ALPAqBETAqGAMLAqKHAqDELTAqHOqWOqZETAqHOTAqTETqYODqKAFqSHINqLAMDAqMEMqDHALqNUNqZUqSAMKAqAINqPUq
    SADEqQOPAqRASHAqTHANNAqGHAINqTOqIqUqSSU=1039FjWORD_DIVIDERaOLD_PERSIAN_SIGN_ArIrUrKAsUrGAsUrXA
    rCArJAsIrTAsUrDAsIsUrTHArPArBArFArNAsUrMAsIsUrYArVAsIrRAsUrLArSArZArSHAsSArHA=103C8rAURAMAZDAA
    zc-2zcHArXSHAAYATHIYArDAHYAAUSHzb-2rBAGAsUUMISHmWORD_DIVIDERmNUMBER_ONEtTWOuENuWENTYtHUNDRED=1
    0400aDESERET_CAPITAL_LETTER_LONG_IzdEzdAzeHzdOzeOxSHORT_IzeEzeAzfHzeOzfOxAYxOWxWUxYEExHxPEExBE
    ExTEExDEExCHEExJEExKAYxGAYxEFxVEExETHxTHEExESxZEExESHxZHEExERyLyMyNzGxOIxEWiSMALL_LETTER_LONG_
    IzbEzbAzcHzbOzcOvSHORT_IzcEzcAzdHzcOzdOvAYvOWvWUvYEEvHvPEEvBEEvTEEvDEEvCHEEvJEEvKAYvGAYvEFvVEE
    vETHvTHEEvESvZEEvESHvZHEEvERwLwMwNxGvOIvEWaSHAVIAN_LETTER_PEEPpTOTpKICKpFEEpTHIGHpSOqUREpCHURC
    HpYEApHUNGpBIBpDEADpGAGpVOWpTHEYpZOOpMEASUREpJUDGEpWOEpHA-HApLOLLpMIMEpIFpEGGpASHqDOpONpWOOLpO
    UTpAHpROARpNUNpEATpAGEpICEpUPpOAKqOZEqILpAWEqREpORpAIRpERRpARRAYpEARpIANpYEWaOSMANYA_LETTER_AL
    EFpBApTApJApXApKHApDEELpRApSAqHIINpDHApCAYNpGApFApQAAFpKAAFpLAANpMIINpNUUNpWAWpHApYApApEpIpOpU
    pAApEEpOO=104A0iDIGIT_ZEROoONEoTWOpHREEoFOURpIVEoSIXpEVENoEIGHToNINE=104B0cAGE_CAPITAL_LETTER_
    AwIxNwHvBRAvCHAvEHCHAvEwINvHAwYAvIvKAvEHKAvKYAvLAvMAvNAvOwINvPAvEHPAvSAwHAvTAvEHTAvTSAvEHTSAvT
    SHAvDHAvUvWAvKHAvGHAvZAwHA=104D8gSMALL_LETTER_AuIvNuHtBRAtCHAtEHCHAtEuINtHAuYAtItKAtEHKAtKYAtL
    AtMAtNAtOuINtPAtEHPAtSAuHAtTAtEHTAtTSAtEHTSAtTSHAtDHAtUtWAtKHAtGHAtZAuHA=10500aELBASAN_LETTER_
    ApBEpCEqHEpDEpNDEpDHEpEIpEpFEpGEqJEpHEpIpJEpKEpLEqLEpMEpNEqAqJEpOpPEpQEpREqREpSEqHEpTEqHEpUpVE
    pXEpYpZEqHEpGHErAMMApKHE=10530aCAUCASIAN_ALBANIAN_LETTER_ALTzbBETzbGIMzbDATzbEBzbZARLzbEYNzbZH
    ILzbTASzbCHAzbYOWDzbZHAzbIRBzbSHAzbLANzbINYAzbXEYNzbDYANzbCARzbJHOXzbKARzbLYITzbHEYTzbQAYzbAOR
    zbCHOYzdIzcYAYzbMAQzbQARzbNOWCzbDZYAYzbSHAKzbJAYNzbONzbTYAYzbFAMzbDZAYzbCHATzbPENzbGHEYSzbRATz
    bSEYKzbVEYZzbTIWRzbSHOYzbIWNzbCYAWzcAYNzbYAYDzbPIWRzbKIW=1056FtCITATION_MARKaVITHKUQI_CAPITAL_
    LETTER_AyBBEzEyCEzHEyDEzHEyEIyEyFEyGA=1057CyHAzHAyIzJEyJEyKAyLAzLAyMEyNEzJEyOyPEyQAyRE=1058CyS
    EzHEyTEzHEyUyVEyXE=10594yYyZE=10597jSMALL_LETTER_AwBBExEwCExHEwDExHEwEIwEwFEwGA=105A3wHAxHAwIx
    JEwJEwKAwLAxLAwMEwNExJEwOwPEwQAwRE=105B3wSExHEwTExHEwUwVEwXE=105BBwYwZE=10600aLINEAR_A_SIGN_AB
    001s2s3s4s5s6s7s8s9r10s1s3s6s7r20s1tFtMs2tFtMs3tMs4s6s7s8p028BpB029r30s1s4s7s8s9r40s1s4s5s6s7s
    8s9r50s1s3s4s5s6s7s8s9r60s1s5s6s7s9r70s3s4s6s7s8s9r80s1s2s5s6s7p100-102pB118r20p120BpB122s3r31
    AtBp131CpB164r71r80s8r91p301r2r3r4r5r6r7r8r9AsBsCq10r1r2r3AsBsCr4r5r6r7r8r9q20r1r2r3r4r5r6r7r8
    r9q30r1r2r3r4r5r6r7r8r9q40r1r2r3r4r5r6r7r8r9q50r1r2r3r4r5r6r7r8r9q60r1r2r3r4r5r6r7r8r9q70r1p40
    0-VASr1-VASr2-VASr3-VASr4-VASr5-VASr6-VASr7-VASr8-VASr9-VASq10-VASr1-VASr2-VASr3-VASr4-VASr5-V
    ASr6-VASr7-VASr8-VASp501r2r3r4r5r6r8r9q10r1r2r3r5r6q20r1r3r4r5r6r7r8r9q30r1r2r4r5r6r7r8r9q40r1
    r2r5r7r8r9q50r1r2r3r4r5r6r7r9q63r4r5r6r8r9q70r1r2r3r4r5r6r7r8r9q80r1r2r3r4r5r6r7r8r9q91r2r4r5r
    6r8p600r1r2r3r4r6r8r9q10r1r2r3r4r5r6r7r8r9q20r1r2r3r4r6r7r8r9q34r7r8q40r2r3r4r5r6r8r9q51r2r3r4
    r5r6r7r8r9q60r1r2r3r4=10740p701_Ar2_Br3_Dr4_Er5_Fr6_Hr7_Jr8_Kr9_Ls-2_L2t3_L3t4_L4t6_L6q10_Wr1_
    Xr2_Yr3_OMEGAr4_ABBr5_BBr7_DDq26_EYYYq32_JE=10760p800r1r2r3r4r5r6r7=10780aMODIFIER_LETTER_SMAL
    L_CAPITAL_AArUPERSCRIPT_TRIANGULAR_COLONzdHALF_TRIANGULAR_COLONrMALL_AEwCAPITAL_BwB_WITH_HOOK=
    10787wDZ_DIGRAPHzh_WITH_RETROFLEX_HOOKznCURLxEZH_DIGRAPHx_WITH_TAILzeHOOKzi_AND_TAILwREVERSED_
    EwCLOSED_REVERSED_OPEN_EwFENG_DIGRAPHwRAMS_HORNwCAPITAL_GwG_WITH_HOOKwCAPITAL_G_WITH_HOOKwH_WI
    TH_STROKEwCAPITAL_HwHENG_WITH_HOOKwDOTLESS_J_WITH_STROKE_AND_HOOKwLS_DIGRAPHxZ_DIGRAPHx_WITH_B
    ELTwCAPITAL_L_WITH_BELTwL_WITH_RETROFLEX_HOOK_AND_BELTxEZHzb_WITH_RETROFLEX_HOOKwTURNED_Yzf_WI
    TH_BELTwO_WITH_STROKEwCAPITAL_OExLOSED_OMEGAwQwTURNED_R_WITH_LONG_LEGzt_AND_RETROFLEX_HOOKwR_W
    ITH_TAILzeFISHHOOKwCAPITAL_RwTC_DIGRAPH_WITH_CURLxS_DIGRAPHzh_WITH_RETROFLEX_HOOKxESH_DIGRAPHx
    _WITH_RETROFLEX_HOOKwV_WITH_RIGHT_HOOK=107B2wCAPITAL_YqGLOTTAL_STOP_WITH_STROKEqREVERSED_GLOTT
    AL_STOP_WITH_STROKEqBILABIAL_CLICKqDENTAL_CLICKqLATERAL_CLICKqALVEOLAR_CLICKqRETROFLEX_CLICK_W
    ITH_RETROFLEX_HOOKqSMALL_S_WITH_CURL=10800aCYPRIOT_SYLLABLE_ArErIrOrUrJA=10808sO=1080ArKAsEsIs
    OsUrLAsEsIsOsUrMAsEsIsOsUrNAsEsIsOsUrPAsEsIsOsUrRAsEsIsOsUrSAsEsIsOsUrTAsEsIsOsUrWAsEsIsO=1083
    7rXAsE=1083CrZA=1083FsOaIMPERIAL_ARAMAIC_LETTER_ALEPHyBETHyGIMELyDALETHyHEyWAWyZAYINyHETHyTETH
    yYODHyKAPHyLAMEDHyMEMyNUNySAMEKHyAYINyPEySADHEyQOPHyRESHySHINyTAW=10857rSECTION_SIGNrNUMBER_ON
    EyTWOzHREEzENzWENTYyONE_HUNDREDzdTHOUSANDyTEN_THOUSANDaPALMYRENE_LETTER_ALEPHrBETHrGIMELrDALET
    HrHErWAWrZAYINrHETHrTETHrYODHrKAPHrLAMEDHrMEMrFINAL_NUNrNUNrSAMEKHrAYINrPErSADHErQOPHrRESHrSHI
    NrTAWmFT-POINTING_FLEURONkRIGHT-POINTING_FLEURONkNUMBER_ONErTWOsHREErFOURsIVErTENsWENTYaNABATA
    EAN_LETTER_FINAL_ALEPHrALEPHrFINAL_BETHrBETHrGIMELrDALETHrFINAL_HErHErWAWrZAYINrHETHrTETHrFINA
    L_YODHrYODHrFINAL_KAPHrKAPHrFINAL_LAMEDHrLAMEDHrFINAL_MEMrMEMrFINAL_NUNrNUNrSAMEKHrAYINrPErSAD
    HErQOPHrRESHrFINAL_SHINrSHINrTAW=108A7kNUMBER_ONErTWOsHREErFOURkCRUCIFORM_NUMBER_FOURkNUMBER_F
    IVErTENsWENTYrONE_HUNDRED=108E0aHATRAN_LETTER_ALEPHoBETHoGIMELoDALETH-RESHoHEoWAWoZAYNoHETHoTE
    THoYODHoKAPHoLAMEDHoMEMoNUNoSAMEKHoAYNoPEoSADHEoQOPH=108F4oSHINoTAW=108FBhNUMBER_ONEoFIVEoTENp
    WENTYoONE_HUNDREDaPHOENICIAN_LETTER_ALFsBETsGAMLsDELTsHEsWAUsZAIsHETsTETsYODsKAFsLAMDsMEMsNUNs
    SEMKsAINsPEsSADEsQOFsROSHsSHINsTAUlNUMBER_ONEsTENtWENTYsONE_HUNDREDsTWOtHREE=1091FlWORD_SEPARA
    TORaLYDIAN_LETTER_AoBoGoDoEoVoIoYoKoLoMoNoOoRoSSoToUoFoQoSoTToANoENoLYoNNoC=1093FhTRIANGULAR_M
    ARK=10980aMEROITIC_HIEROGLYPHIC_LETTER_AzeEzeIzeOzeYAzeWAzeBAzg-2zePAzeMAzeNAzg-2zfEzg-2zeRAzg
    -2zeLAzeKHAzeHHAzeSAzg-2zfEzeKAzeQAzeTAzg-2zfEzg-2zfOzeDAwSYMBOL_VIDJzi-2jCURSIVE_LETTER_AyEyI
    yOyYAyWAyBAyPAyMAyNAzEyRAyLAyKHAyHHAySAyARCHAIC_SAySEyKAyQAyTAzEzOyDA=109BCrFRACTION_ELEVEN_TW
    ELFTHSzbONE_HALFrLOGOGRAM_RMTzbIMNrNUMBER_ONEyTWOzHREEyFOURzIVEySIXzEVENyEIGHTyNINEyTENzWENTYz
    HIRTYyFORTYzIFTYySIXTYzEVENTY=109D2yONE_HUNDREDyTWO_HUNDREDzHREE_HUNDREDyFOUR_HUNDREDzIVE_HUND
    REDySIX_HUNDREDzEVEN_HUNDREDyEIGHT_HUNDREDyNINE_HUNDREDyONE_THOUSANDyTWO_THOUSANDzHREE_THOUSAN
    DyFOUR_THOUSANDzIVE_THOUSANDySIX_THOUSANDzEVEN_THOUSANDyEIGHT_THOUSANDyNINE_THOUSANDyTEN_THOUS
    ANDzWENTY_THOUSANDzHIRTY_THOUSANDyFORTY_THOUSANDzIFTY_THOUSANDySIXTY_THOUSANDzEVENTY_THOUSANDy
    EIGHTY_THOUSANDyNINETY_THOUSANDyONE_HUNDRED_THOUSANDyTWO_HUNDRED_THOUSANDzHREE_HUNDRED_THOUSAN
    DyFOUR_HUNDRED_THOUSANDzIVE_HUNDRED_THOUSANDySIX_HUNDRED_THOUSANDzEVEN_HUNDRED_THOUSANDyEIGHT_
    HUNDRED_THOUSANDyNINE_HUNDRED_THOUSANDrFRACTION_ONE_TWELFTHzbTWO_TWELFTHSzcHREE_TWELFTHSzbFOUR
    _TWELFTHSzcIVE_TWELFTHSzbSIX_TWELFTHSzcEVEN_TWELFTHSzbEIGHT_TWELFTHSzbNINE_TWELFTHSzbTEN_TWELF
    THSaKHAROSHTHI_LETTER_AlVOWEL_SIGN_IwUwVOCALIC_R=10A05wEwO=10A0CrLENGTH_MARKlSIGN_DOUBLE_RING_
    BELOWqANUSVARAqVISARGAlLETTER_KAtHAsGAtHA=10A15sCAtHAsJA=10A19sNYAsTTAuHAsDDAuHAsNNAsTAtHAsDAt
    HAsNAsPAtHAsBAtHAsMAsYAsRAsLAsVAsSHAtSAtAsZAsHAsKKAsTTTHAvAsVHA=10A38lSIGN_BAR_ABOVEqCAUDAqDOT
    _BELOW=10A3FlVIRAMAlDIGIT_ONErTWOsHREErFOURlNUMBER_TENtWENTYsONE_HUNDREDwTHOUSANDlFRACTION_ONE
    _HALF=10A50lPUNCTUATION_DOTxSMALL_CIRCLExCIRCLEyRESCENT_BARxMANGALAMxLOTUSxDANDAyOUBLE_DANDAxL
    INES=10A60aOLD_SOUTH_ARABIAN_LETTER_HEzLAMEDHzHETHzMEMzQOPHzWAWzSHINzRESHzBETHzTAWzSATzKAPHzNU
    NzKHETHzSADHEzcMEKHzFEzALEFzbYNzDHADHEzGIMELzDALETHzGHAYNzTETHzZAYNzDHALETHzYODHzTHAWzcETHsNUM
    BER_ONEzFIFTYvERIC_INDICATOReNORTH_ARABIAN_LETTER_HEHzLAMzHAHzMEEMzQAFzWAWzES-2zREHzBEHzTEHzES
    -1zKAFzNOONzKHAHzSADzES-3zFEHzALEFzbINzDADzGEEMzDALzGHAINzTAHzZAINzTHALzYEHzTHEHzZAHsNUMBER_ON
    EzTENzbWENTY=10AC0aMANICHAEAN_LETTER_ALEPHsBETHtHETHsGIMELtHIMELsDALETHsHEsWAWlSIGN_UDlLETTER_
    ZAYINtHAYINsJAYINtHAYINsHETHsTETHsYODHsKAPHsXAPHsKHAPHsLAMEDHsDHAMEDHsTHAMEDHsMEMsNUNsSAMEKHsA
    YINtAYINsPEsFEsSADHEsQOPHsXOPHsQHOPHsRESHsSHINtSHINsTAWlABBREVIATION_MARK_ABOVEzeBELOW=10AEBlN
    UMBER_ONEsFIVEsTENtWENTYsONE_HUNDREDlPUNCTUATION_STARxFLEURONxDOUBLE_DOT_WITHIN_DOTzT_WITHIN_D
    OTzTxTWO_DOTSxLINE_FILLER=10B00aAVESTAN_LETTER_AqAqOqAOqNqANqErEpEqEpOqOpIqIpUqUpKEpXEqYEqVEpG
    EqGEqHEpCEpJEpTEqHEpDEqHEpTTEpPEpFEpBEqHEpNGErYErVEqEqYEqNEpMEpHMEpYYEqEpVEpREpLEpSEpZEpSHEpZH
    EpSHYEqSHEpHE=10B39iABBREVIATION_MARKaTINY_TWO_DOTS_OVER_ONE_DOT_PUNCTUATIONaSMALL_TWO_DOTS_OV
    ER_ONE_DOT_PUNCTUATIONaLARGE_TWO_DOTS_OVER_ONE_DOT_PUNCTUATIONgONE_DOT_OVER_TWO_DOTS_PUNCTUATI
    ONgTWO_RINGS_OVER_ONE_RING_PUNCTUATIONgONE_RING_OVER_TWO_RINGS_PUNCTUATIONaINSCRIPTIONAL_PARTH
    IAN_LETTER_ALEPHzfBETHzfGIMELzfDALETHzfHEzfWAWzfZAYINzfHETHzfTETHzfYODHzfKAPHzfLAMEDHzfMEMzfNU
    NzfSAMEKHzfAYINzfPEzfSADHEzfQOPHzfRESHzfSHINzfTAW=10B58xNUMBER_ONEzfTWOzgHREEzfFOURzfTENzgWENT
    YzfONE_HUNDREDzjTHOUSANDqHLAVI_LETTER_ALEPHzeBETHzeGIMELzeDALETHzeHEzeWAW-AYIN-RESHzeZAYINzeHE
    THzeTETHzeYODHzeKAPHzeLAMEDHzeMEM-QOPHzeNUNzeSAMEKHzePEzeSADHEzfHINzeTAW=10B78wNUMBER_ONEzeTWO
    zfHREEzeFOURzeTENzfWENTYzeONE_HUNDREDziTHOUSANDaPSALTER_PAHLAVI_LETTER_ALEPHxBETHxGIMELxDALETH
    xHExWAW-AYIN-RESHxZAYINxHETHxYODHxKAPHxLAMEDHxMEM-QOPHxNUNxSAMEKHxPExSADHEyHINxTAW=10B99qSECTI
    ON_MARKqTURNED_SECTION_MARKqFOUR_DOTS_WITH_CROSSzgDOT=10BA9qNUMBER_ONExTWOyHREExFOURxTENyWENTY
    xONE_HUNDRED=10C00aOLD_TURKIC_LETTER_ORKHON_AsYENISEI_AzcEsORKHON_IsYENISEI_IzbEsORKHON_OzbEsY
    ENISEI_OEsORKHON_ABsYENISEI_ABsORKHON_AEBsYENISEI_AEBsORKHON_AGsYENISEI_AGsORKHON_AEGsYENISEI_
    AEGsORKHON_ADsYENISEI_ADsORKHON_AEDzEZsYENISEI_EZsORKHON_AYsYENISEI_AYsORKHON_AEYsYENISEI_AEYs
    ORKHON_AEKsYENISEI_AEKsORKHON_OEKsYENISEI_OEKsORKHON_ALsYENISEI_ALsORKHON_AELzELTzbMzANzbENsYE
    NISEI_AENsORKHON_ENTsYENISEI_ENTsORKHON_ENCsYENISEI_ENCsORKHON_ENYsYENISEI_ENYzbANGsORKHON_ENG
    sYENISEI_AENGsORKHON_EPzOPzICzECsYENISEI_ECsORKHON_AQsYENISEI_AQsORKHON_IQsYENISEI_IQsORKHON_O
    QsYENISEI_OQsORKHON_ARsYENISEI_ARsORKHON_AERzbSzbESzbSHsYENISEI_ASHsORKHON_ESHsYENISEI_ESHsORK
    HON_ATsYENISEI_ATsORKHON_AETsYENISEI_AETsORKHON_OTzBASH=10C80eHUNGARIAN_CAPITAL_LETTER_AzfAzeE
    BzeAMBzeECzfNCzfCSzfDzeANDzeEzeCLOSE_EzeEEzfFzfGzgYzfHzeIzfIzeEJzfKzeAKzeUNKzeELzgYzfMzfNzgYze
    OzfOzeNIKOLSBURG_OEzeRUDIMENTA_OEzeOEEzeEPzfMPzfRzeSHORT_ERzeESzgZzfTzfNTzfTYzfCHzeUzfUzeNIKOL
    SBURG_UEzeRUDIMENTA_UEzeEVzfZzgSzfNT-SHAPED_SIGNzeUS=10CC0oSMALL_LETTER_AzdAzcEBzcAMBzcECzdNCz
    dCSzdDzcANDzcEzcCLOSE_EzcEEzdFzdGzeYzdHzcIzdIzcEJzdKzcAKzcUNKzcELzeYzdMzdNzeYzcOzdOzcNIKOLSBUR
    G_OEzcRUDIMENTA_OEzcOEEzcEPzdMPzdRzcSHORT_ERzcESzeZzdTzdNTzdTYzdCHzcUzdUzcNIKOLSBURG_UEzcRUDIM
    ENTA_UEzcEVzdZzeSzdNT-SHAPED_SIGNzcUS=10CFAoNUMBER_ONEvFIVEvTENvFIFTYvONE_HUNDREDzTHOUSANDaHAN
    IFI_ROHINGYA_LETTER_AxBAxPAxTAyTAxJAxCAxHAxKHAxFAxDAyDAxRAyRAxZAxSAyHAxKAxGAxLAxMAxNAxWAxKINNA
    _WAxYAxKINNA_YAxNGAyYAxVAqVOWEL_AwIwUwEwOqMARK_SAKINvNA_KHONNAqSIGN_HARBAHAYvTAHALAxNAxSSI=10D
    30qDIGIT_ZEROwONEwTWOxHREEwFOURxIVEwSIXxEVENwEIGHTwNINE=10E60aRUMI_DIGIT_ONElTWOmHREElFOURmIVE
    lSIXmEVENlEIGHTlNINEfNUMBER_TENnWENTYnHIRTYmFORTYnIFTYmSIXTYnEVENTYmEIGHTYmNINETYmONE_HUNDREDm
    TWO_HUNDREDnHREE_HUNDREDmFOUR_HUNDREDnIVE_HUNDREDmSIX_HUNDREDnEVEN_HUNDREDmEIGHT_HUNDREDmNINE_
    HUNDREDfFRACTION_ONE_HALFsQUARTERsTHIRDoTWO_THIRDS=10E80aYEZIDI_LETTER_ELIFoBEoPEpHEoTHEoSEoCI
    MpHIMqHIMoHHAoXAoDALoZALoRApHAoZAoJAoSINpHINpADoDADoTAoZEoEYNoXHEYNoFAoVAq_ALTERNATE_FORMoQAFo
    KAFpHAFoGAFoLAMoMIMoNUNoUMoWAWoOWoEWoHAYoYOToET=10EABhCOMBINING_HAMZA_MARKrMADDA_MARKhHYPHENAT
    ION_MARK=10EB0hLETTER_LAM_WITH_DOT_ABOVEoYOT_WITH_CIRCUMFLEX_ABOVE=10F00aOLD_SOGDIAN_LETTER_AL
    EPHtFINAL_ALEPHtBETHtFINAL_BETHtGIMELtHEtFINAL_HEtWAWtZAYINtHETHtYODHtKAPHtLAMEDHtMEMtNUNtFINA
    L_NUNzd_WITH_VERTICAL_TAILtSAMEKHtAYINuLTERNATE_AYINtPEtSADHEtFINAL_SADHEzf_WITH_VERTICAL_TAIL
    tRESH-AYIN-DALETHtSHINtTAWtFINAL_TAWzd_WITH_VERTICAL_TAILmNUMBER_ONEtTWOuHREEtFOURuIVEtTENuWEN
    TYuHIRTYtONE_HUNDREDmFRACTION_ONE_HALFmLIGATURE_AYIN-DALETH=10F30aSOGDIAN_LETTER_ALEPHpBETHpGI
    MELpHEpWAWpZAYINpHETHpYODHpKAPHpLAMEDHpMEMpNUNpSAMEKHpAYINpPEpSADHEpRESH-AYINpSHINpTAWpFETHpLE
    SHiINDEPENDENT_SHINiCOMBINING_DOT_BELOWsTWO_DOTS_BELOWsDOT_ABOVEsTWO_DOTS_ABOVEsCURVE_ABOVEyBE
    LOWsHOOK_ABOVExBELOWsLONG_HOOK_BELOWsRESH_BELOWsSTROKE_BELOWiNUMBER_ONEpTENqWENTYpONE_HUNDREDi
    PUNCTUATION_TWO_VERTICAL_BARSzm_WITH_DOTSuCIRCLE_WITH_DOTuTWO_CIRCLES_WITH_DOTSuHALF_CIRCLE_WI
    TH_DOT=10F70aOLD_UYGHUR_LETTER_ALEPHsBETHsGIMEL-HETHsWAWsZAYINsFINAL_HETHsYODHsKAPHsLAMEDHsMEM
    sNUNsSAMEKHsPEsSADHEsRESHsSHINsTAWsLESHlCOMBINING_DOT_ABOVEzBELOWvTWO_DOTS_ABOVEzfBELOWlPUNCTU
    ATION_BARxTWO_BARSzcDOTSxFOUR_DOTS=10FB0aCHORASMIAN_LETTER_ALEPHsSMALL_ALEPHsBETHsGIMELsDALETH
    sHEsWAWsCURLED_WAWsZAYINsHETHsYODHsKAPHsLAMEDHsMEMsNUNsSAMEKHsAYINsPEsRESHsSHINsTAWlNUMBER_ONE
    sTWOtHREEsFOURsTENtWENTYsONE_HUNDRED=10FE0aELYMAIC_LETTER_ALEPHpBETHpGIMELpDALETHpHEpWAWpZAYIN
    pHETHpTETHpYODHpKAPHpLAMEDHpMEMpNUNpSAMEKHpAYINpPEpSADHEpQOPHpRESHpSHINpTAWjIGATURE_ZAYIN-YODH
    =11000aBRAHMI_SIGN_CANDRABINDUmANUSVARAmVISARGAmJIHVAMULIYAmUPADHMANIYAhLETTER_ApAoIpIoUpUoVOC
    ALIC_RxRwLxLoEoAIoOoAUoKApHAoGApHAoNGAoCApHAoJApHAoNYAoTTAqHAoDDAqHAoNNAoTApHAoDApHAoNAoPApHAo
    BApHAoMAoYAoRAoLAoVAoSHApSApAoHAoLLAoOLD_TAMIL_LLLAyRRAyNNNAhVOWEL_SIGN_AAsBHATTIPROLU_AAsItIs
    UtUsVOCALIC_RzcRzbLzcLsEsAIsOsAUiIRAMAhDANDAiOUBLE_DANDAhPUNCTUATION_DOTvUBLE_DOTtLINEtCRESCEN
    T_BARtLOTUS=11052hNUMBER_ONEoTWOpHREEoFOURpIVEoSIXpEVENoEIGHToNINEoTENpWENTYpHIRTYoFORTYpIFTYo
    SIXTYpEVENTYoEIGHTYoNINETYoONE_HUNDREDsTHOUSANDhDIGIT_ZEROnONEnTWOoHREEnFOURoIVEnSIXoEVENnEIGH
    TnNINEhSIGN_OLD_TAMIL_VIRAMAhLETTER_OLD_TAMIL_SHORT_EzfOhVOWEL_SIGN_OLD_TAMIL_SHORT_EzjOhLETTE
    R_OLD_TAMIL_LLA=1107FhNUMBER_JOINERaKAITHI_SIGN_CANDRABINDUmANUSVARAmVISARGAhLETTER_ApAoIpIoUp
    UoEoAIoOoAUoKApHAoGApHAoNGAoCApHAoJApHAoNYAoTTAqHAoDDAqDHAqHAoRHAoNNAoTApHAoDApHAoNAoPApHAoBAp
    HAoMAoYAoRAoLAoVAoSHApSApAoHAhVOWEL_SIGN_AAsItIsUtUsEsAIsOsAUhSIGN_VIRAMAmNUKTAhABBREVIATION_S
    IGNhENUMERATION_SIGNhNUMBER_SIGNhSECTION_MARKhDOUBLE_SECTION_MARKiANDAiOUBLE_DANDAhVOWEL_SIGN_
    VOCALIC_R=110CDhNUMBER_SIGN_ABOVE=110D0aSORA_SOMPENG_LETTER_SAHuTAHuBAHuCAHuDAHuGAHuMAHuNGAHuL
    AHuNAHuVAHuPAHuYAHuRAHuHAHuKAHuJAHuNYAHuAHuEEHuIHuUHuOHuEHuMAE=110F0nDIGIT_ZEROtONEtTWOuHREEtF
    OURuIVEtSIXuEVENtEIGHTtNINE=11100aCHAKMA_SIGN_CANDRABINDUmANUSVARAmVISARGAhLETTER_AAoIoUoEoKAA
    pHAAoGAApHAAoNGAAoCAApHAAoJAApHAAoNYAAoTTAAqHAAoDDAAqHAAoNNAAoTAApHAAoDAApHAAoNAAoPAApHAAoBAAp
    HAAoMAAoYYAApAAoRAAoLAAoWAAoSAAoHAAhVOWEL_SIGN_AsItIsUtUsEsAIsOsAUsOIhO_MARKhAU_MARKhVIRAMAhMA
    AYYAA=11136hDIGIT_ZEROnONEnTWOoHREEnFOURoIVEnSIXoEVENnEIGHTnNINEhSECTION_MARKhDANDAiOUBLE_DAND
    AhQUESTION_MARKhLETTER_LHAAhVOWEL_SIGN_AAsEIhLETTER_VAA=11150aMAHAJANI_LETTER_AqIqUqEqOqKArHAq
    GArHAqCArHAqJArHAqNYAqTTAsHAqDDAsHAqNNAqTArHAqDArHAqNAqPArHAqBArHAqMAqRAqLAqVAqSAqHAqRRAjSIGN_
    NUKTAjABBREVIATION_SIGNjSECTION_MARKjLIGATURE_SHRI=11180aSHARADA_SIGN_CANDRABINDUnANUSVARAnVIS
    ARGAiLETTER_AqApIqIpUqUpVOCALIC_RyRxLyLpEpAIpOpAUpKAqHApGAqHApNGApCAqHApJAqHApNYApTTArHApDDArH
    ApNNApTAqHApDAqHApNApPAqHApBAqHApMApYApRApLAqLApVApSHAqSAqApHAiVOWEL_SIGN_AAtIuItUuUtVOCALIC_R
    zdRzcLzdLtEtAItOtAUiSIGN_VIRAMAnAVAGRAHAnJIHVAMULIYAnUPADHMANIYAiOMiDANDAjOUBLE_DANDAiABBREVIA
    TION_SIGNiSEPARATORjANDHI_MARKjIGN_NUKTAiVOWEL_MODIFIER_MARKiEXTRA_SHORT_VOWEL_MARKiSUTRA_MARK
    iVOWEL_SIGN_PRISHTHAMATRA_EiSIGN_INVERTED_CANDRABINDUiDIGIT_ZEROoONEoTWOpHREEoFOURpIVEoSIXpEVE
    NoEIGHToNINEiEKAMiSIGN_SIDDHAMiHEADSTROKEiCONTINUATION_SIGNiSECTION_MARK-1v2=111E1bINHALA_ARCH
    AIC_DIGIT_ONEwTWOxHREEwFOURxIVEwSIXxEVENwEIGHTwNINEqNUMBER_TENyWENTYyHIRTYxFORTYyIFTYxSIXTYyEV
    ENTYxEIGHTYxNINETYxONE_HUNDREDzcTHOUSAND=11200aKHOJKI_LETTER_ApAoIoUoEoAIoOoAUoKApHAoGApGApHAo
    NGAoCApHAoJApJA=11213oNYAoTTAqHAoDDAqHAoNNAoTApHAoDApDDApHAoNAoPApHAoBApBApHAoMAoYAoRAoLAoVAoS
    AoHAoLLAhVOWEL_SIGN_AAsItIsUsEsAIsOsAUhSIGN_ANUSVARAmVIRAMAmNUKTAmSHADDAhDANDAiOUBLE_DANDAhWOR
    D_SEPARATORhSECTION_MARKhDOUBLE_SECTION_MARKhABBREVIATION_SIGNhSIGN_SUKUN=11280aMULTANI_LETTER
    _ApIpUpEpKAqHApGA=11288qHA=1128ApCAqHApJAqJA=1128FpNYApTTArHApDDArDArHApNNApTAqHApDAqHApNApPAq
    HApBA=1129FqHApMApYApRApLApVApSApHApRRAqHAiSECTION_MARK=112B0aKHUDAWADI_LETTER_AsArIsIrUsUrErA
    IrOrAUrKAsHArGAsGAsHArNGArCAsHArJAsJAsHArNYArTTAtHArDDAtDArRRArDDHArNNArTAsHArDAsHArNArPAsHArB
    AsBAsHArMArYArRArLArVArSHAsArHAkSIGN_ANUSVARAkVOWEL_SIGN_AAvIwIvUwUvEvAIvOvAUkSIGN_NUKTApVIRAM
    A=112F0kDIGIT_ZEROqONEqTWOrHREEqFOURrIVEqSIXrEVENqEIGHTqNINE=11300aGRANTHA_SIGN_COMBINING_ANUS
    VARA_ABOVEoANDRABINDUnANUSVARAnVISARGA=11305iLETTER_AqApIqIpUqUpVOCALIC_RxL=1130FpEEpAI=11313p
    OOpAUpKAqHApGAqHApNGApCAqHApJAqHApNYApTTArHApDDArHApNNApTAqHApDAqHApNA=1132ApPAqHApBAqHApMApYA
    pRA=11332pLAqLA=11335pVApSHAqSAqApHA=1133BaCOMBINING_BINDU_BELOWaGRANTHA_SIGN_NUKTAnAVAGRAHAiV
    OWEL_SIGN_AAtIuItUuUtVOCALIC_RzdR=11347tEEtAI=1134BtOOtAUiSIGN_VIRAMA=11350iOM=11357iAU_LENGTH
    _MARK=1135DiSIGN_PLUTAiLETTER_VEDIC_ANUSVARAvDOUBLE_ANUSVARAqOCALIC_RRxLLiVOWEL_SIGN_VOCALIC_L
    zdL=11366aCOMBINING_GRANTHA_DIGIT_ZEROyONEyTWOzHREEyFOURzIVEySIX=11370sLETTER_AzKAzNAzVIzPA=11
    400aNEWA_LETTER_AnAmInImUnUmVOCALIC_RvRuLvLmEmAImOmAUmKAnHAmGAnHAmNGAoHAmCAnHAmJAnHAmNYAoHAmTT
    AoHAmDDAoHAmNNAmTAnHAmDAnHAmNAnHAmPAnHAmBAnHAmMAnHAmYAmRAnHAmLAnHAmWAmSHAnSAnAmHAfVOWEL_SIGN_A
    AqIrIqUrUqVOCALIC_RzRyLzLqEqAIqOqAUfSIGN_VIRAMAkCANDRABINDUkANUSVARAkVISARGAkNUKTAkAVAGRAHAkFI
    NAL_ANUSVARAfOMfSIDDHIfDANDAgOUBLE_DANDAfCOMMAfGAP_FILLERfABBREVIATION_SIGNfDIGIT_ZEROlONElTWO
    mHREElFOURmIVElSIXmEVENlEIGHTlNINEgOUBLE_COMMAfPLACEHOLDER_MARK=1145DfINSERTION_SIGNfSANDHI_MA
    RKfLETTER_VEDIC_ANUSVARAfSIGN_JIHVAMULIYAkUPADHMANIYA=11480aTIRHUTA_ANJIiLETTER_AqApIqIpUqUpVO
    CALIC_RyRxLyLpEpAIpOpAUpKAqHApGAqHApNGApCAqHApJAqHApNYApTTArHApDDArHApNNApTAqHApDAqHApNApPAqHA
    pBAqHApMApYApRApLApVApSHAqSAqApHAiVOWEL_SIGN_AAtIuItUuUtVOCALIC_RzdRzcLzdLtEtSHORT_EtAItOtSHOR
    T_OtAUiSIGN_CANDRABINDUnANUSVARAnVISARGApRAMAnNUKTAnAVAGRAHAiGVANGiABBREVIATION_SIGNiOM=114D0i
    DIGIT_ZEROoONEoTWOpHREEoFOURpIVEoSIXpEVENoEIGHToNINE=11580aSIDDHAM_LETTER_AqApIqIpUqUpVOCALIC_
    RyRxLyLpEpAIpOpAUpKAqHApGAqHApNGApCAqHApJAqHApNYApTTArHApDDArHApNNApTAqHApDAqHApNApPAqHApBAqHA
    pMApYApRApLApVApSHAqSAqApHAiVOWEL_SIGN_AAtIuItUuUtVOCALIC_RzdR=115B8tEtAItOtAUiSIGN_CANDRABIND
    UnANUSVARAnVISARGApRAMAnNUKTAnSIDDHAMiDANDAjOUBLE_DANDAiSEPARATOR_DOTsBARiREPETITION_MARK-1y2y
    3iEND_OF_TEXT_MARKiSECTION_MARK_WITH_TRIDENT_AND_U-SHAPED_ORNAMENTSznDOTTED_CRESCENTSzbRAYS_AN
    D_DOTTED_CRESCENTSzrDOUBLE_CRESCENTSzrTRIPLE_CRESCENTSvDOUBLE_RINGzh_WITH_RAYSvWITH_DOUBLE_CRE
    SCENTSzbTRIPLE_CRESCENTSzbQUADRUPLE_CRESCENTSzbSEPTUPLE_CRESCENTSzbCIRCLES_AND_RAYSznTWO_ENCLO
    SURESznFOUR_ENCLOSURESiLETTER_THREE-CIRCLE_ALTERNATE_IqWO-CIRCLE_ALTERNATE_IzmIpALTERNATE_UiVO
    WEL_SIGN_ALTERNATE_UzfU=11600aMODI_LETTER_AnAmInImUnUmVOCALIC_RvRuLvLmEmAImOmAUmKAnHAmGAnHAmNG
    AmCAnHAmJAnHAmNYAmTTAoHAmDDAoHAmNNAmTAnHAmDAnHAmNAmPAnHAmBAnHAmMAmYAmRAmLAmVAmSHAnSAnAmHAmLLAf
    VOWEL_SIGN_AAqIrIqUrUqVOCALIC_RzRyLzLqEqAIqOqAUfSIGN_ANUSVARAkVISARGAmRAMAkARDHACANDRAfDANDAgO
    UBLE_DANDAfABBREVIATION_SIGNfSIGN_HUVA=11650fDIGIT_ZEROlONElTWOmHREElFOURmIVElSIXmEVENlEIGHTlN
    INE=11660cNGOLIAN_BIRGA_WITH_ORNAMENTkROTATED_BIRGAkDOUBLE_BIRGA_WITH_ORNAMENTkTRIPLE_BIRGA_WI
    TH_ORNAMENTkBIRGA_WITH_DOUBLE_ORNAMENTkROTATED_BIRGA_WITH_ORNAMENTzeDOUBLE_ORNAMENTkINVERTED_B
    IRGAy_WITH_DOUBLE_ORNAMENTkSWIRL_BIRGAv_WITH_ORNAMENTzcDOUBLE_ORNAMENTkTURNED_SWIRL_BIRGA_WITH
    _DOUBLE_ORNAMENT=11680aTAKRI_LETTER_AoAnIoInUoUnEnAInOnAUnKAoHAnGAoHAnNGAnCAoHAnJAoHAnNYAnTTAp
    HAnDDApHAnNNAnTAoHAnDAoHAnNAnPAoHAnBAoHAnMAnYAnRAnLAnVAnSHAoAnHAnRRAgSIGN_ANUSVARAlVISARGAgVOW
    EL_SIGN_AArIsIrUsUrErAIrOrAUgSIGN_VIRAMAlNUKTAgLETTER_ARCHAIC_KHAgABBREVIATION_SIGN=116C0gDIGI
    T_ZEROmONEmTWOnHREEmFOURnIVEmSIXnEVENmEIGHTmNINE=11700aAHOM_LETTER_KAnHAmNGAnAmTAmALTERNATE_TA
    mPAnHAmBAmMAmJAmCHAmTHAmRAmLAmSAmNYAmHAmAmDAnHAmGAmALTERNATE_GAmGHAmBHAmJHAmALTERNATE_BA=1171D
    fCONSONANT_SIGN_MEDIAL_LAzcRAzcLIGATING_RAfVOWEL_SIGN_ArAqIrIqUrUqEqAWqOqAIrMfSIGN_KILLER=1173
    0fDIGIT_ZEROlONElTWOmHREElFOURmIVElSIXmEVENlEIGHTlNINEfNUMBER_TENnWENTYfSIGN_SMALL_SECTIONlECT
    IONkRULAIgYMBOL_VIfLETTER_CAmTTAoHAmDDAoHAmNNAmLLA=11800aDOGRA_LETTER_AoAnIoInUoUnEnAInOnAUnKA
    oHAnGAoHAnNGAnCAoHAnJAoHAnNYAnTTApHAnDDApHAnNNAnTAoHAnDAoHAnNAnPAoHAnBAoHAnMAnYAnRAnLAnVAnSHAo
    SAoAnHAnRRAgVOWEL_SIGN_AArIsIrUsUrVOCALIC_RzbRrErAIrOrAUgSIGN_ANUSVARAlVISARGAnRAMAlNUKTAgABBR
    EVIATION_SIGN=118A0aWARANG_CITI_CAPITAL_LETTER_NGAAzcAzcWIzcYUzdAzdOzcIIzcUUzcEzcOzcANGzcGAzcK
    OzcENYzcYUJzcUCzcENNzcODDzcTTEzcNUNGzcDAzcATzdMzcBUzcPUzcHIYOzdOLOzeRRzdARzcSSUUzdIIzcVIYOmSMA
    LL_LETTER_NGAAzAzWIzYUzbAzbOzIIzUUzEzOzANGzGAzKOzENYzYUJzUCzENNzODDzTTEzNUNGzDAzATzbMzBUzPUzHI
    YOzbOLOzcRRzbARzSSUUzbIIzVIYOmDIGIT_ZEROsONEsTWOtHREEsFOURtIVEsSIXtEVENsEIGHTsNINEmNUMBER_TENu
    WENTYuHIRTYtFORTYuIFTYtSIXTYuEVENTYtEIGHTYtNINETY=118FFmOMaDIVES_AKURU_LETTER_AuAtIuItUuUtE=11
    909tO=1190CtKAuHAtGAuHAtNGAtCAuHAtJA=11915tNYAtTTA=11918tDDAvHAtNNAtTAuHAtDAuHAtNAtPAuHAtBAuHA
    tMAtYAuYAtRAtLAtVAtSHAuSAuAtHAtLLAtZAmVOWEL_SIGN_AAxIyIxUyUxE=11937xAIxO=1193BmSIGN_ANUSVARArC
    ANDRABINDUrHALANTAmVIRAMAmPREFIXED_NASAL_SIGNmMEDIAL_YAmINITIAL_RAmMEDIAL_RAmSIGN_NUKTAmDOUBLE
    _DANDAmGAP_FILLERmEND_OF_TEXT_MARK=11950mDIGIT_ZEROsONEsTWOtHREEsFOURtIVEsSIXtEVENsEIGHTsNINE=
    119A0aNANDINAGARI_LETTER_AuAtIuItUuUtVOCALIC_RzdR=119AAtEtAItOtAUtKAuHAtGAuHAtNGAtCAuHAtJAuHAt
    NYAtTTAvHAtDDAvHAtNNAtTAuHAtDAuHAtNAtPAuHAtBAuHAtMAtYAtRAtLAtVAtSHAuSAuAtHAtLLAtRRAmVOWEL_SIGN
    _AAxIyIxUyUxVOCALIC_RzhR=119DAxExAIxOxAUmSIGN_ANUSVARArVISARGAtRAMArAVAGRAHArSIDDHAMmHEADSTROK
    EmVOWEL_SIGN_PRISHTHAMATRA_E=11A00aZANABAZAR_SQUARE_LETTER_ArVOWEL_SIGN_IzdUEzdUzdEzdOEzdOzdAI
    zeUzdREVERSED_IxLENGTH_MARKrLETTER_KAzHAyGAzHAyNGAyCAzHAyJAyNYAyTTAzbHAyDDAzbHAyNNAyTAzHAyDAzH
    AyNAyPAzHAyBAzHAyMAyTSAzbHAyDZAzbHAyZHAzAy-AyYAyRAyLAyVAySHAzSAzAyHAyKSSArFINAL_CONSONANT_MARK
    rSIGN_VIRAMAwCANDRABINDUzi_WITH_ORNAMENTzd_WITH_ORNAMENTwANUSVARAwVISARGArCLUSTER-INITIAL_LETT
    ER_RAzFINAL_LETTER_YAznRAznLAznVArINITIAL_HEAD_MARKrCLOSING_HEAD_MARKrMARK_TSHEGwSHADwDOUBLE_S
    HADwLONG_TSHEGrINITIAL_DOUBLE-LINED_HEAD_MARKrCLOSING_DOUBLE-LINED_HEAD_MARKrSUBJOINER=11A50aS
    OYOMBO_LETTER_AiVOWEL_SIGN_ItUEtUtEtOuEtAIuUtVOCALIC_RzcLoLENGTH_MARKiLETTER_KAqHApGAqHApNGApC
    AqHApJAqHApNYApTTArHApDDArHApNNApTAqHApDAqHApNApPAqHApBAqHApMApTSArHApDZApZHAqAp-ApYApRApLApVA
    pSHAqSAqApHApKSSAiSIGN_JIHVAMULIYAnUPADHMANIYAiCLUSTER-INITIAL_LETTER_RAzgLAzgSHAzhAiFINAL_CON
    SONANT_SIGN_GzeKzeNGzeDzeNzeBzeMzeRzeLzeSHzeSze-AiSIGN_ANUSVARAnVISARGAiGEMINATION_MARKiSUBJOI
    NERiMARK_TSHEGnSHADnDOUBLE_SHADnPLUTAiHEAD_MARK_WITH_MOON_AND_SUN_AND_TRIPLE_FLAMEzpFLAMEzjNiT
    ERMINAL_MARK-1w2=11AB0aCANADIAN_SYLLABICS_NATTILIK_HIzfIzeOzfOzeAzfAzdSHRIzhIzgOzhOzgAzhAtSPEv
    IvOvAaPAU_CIN_HAU_LETTER_PAtKAtLAtMAtDAtZAtVAtNGAtHAtGAtKHAtSAtBAtCAtTAuHAtNAtPHAtRAtFAtCHAtAt
    EtItOtUuAtIAtFINAL_PzKzTzMzNzLzWzNGzYmRISING_TONE_LONGwEmSANDHI_GLOTTAL_STOPmRISING_TONE_LONG_
    FINALyFINALmSANDHI_GLOTTAL_STOP_FINALtTONE_LONGwEx_LONG_FINALyFINALmMID-LEVEL_TONEmGLOTTAL_STO
    P_VARIANTmMID-LEVEL_TONE_LONG_FINALzcFINALmLOW-FALLING_TONE_LONGzcEmGLOTTAL_STOPmLOW-FALLING_T
    ONE_LONG_FINALzeFINALmGLOTTAL_STOP_FINAL=11C00aBHAIKSUKI_LETTER_AsArIsIrUsUrVOCALIC_RzbRzL=11C
    0ArErAIrOrAUrKAsHArGAsHArNGArCAsHArJAsHArNYArTTAtHArDDAtHArNNArTAsHArDAsHArNArPAsHArBAsHArMArY
    ArRArLArVArSHAsSAsArHAkVOWEL_SIGN_AAvIwIvUwUvVOCALIC_RzfRzeL=11C38vEvAIvOvAUkSIGN_CANDRABINDUp
    ANUSVARApVISARGArRAMApAVAGRAHAkDANDAlOUBLE_DANDAkWORD_SEPARATORkGAP_FILLER-1v2=11C50kDIGIT_ZER
    OqONEqTWOrHREEqFOURrIVEqSIXrEVENqEIGHTqNINEkNUMBER_ONErTWOsHREErFOURsIVErSIXsEVENrEIGHTrNINErT
    ENsWENTYsHIRTYrFORTYsIFTYrSIXTYsEVENTYrEIGHTYrNINETYkHUNDREDS_UNIT_MARK=11C70aMARCHEN_HEAD_MAR
    KiMARK_SHADiLETTER_KAqHApGApNGApCAqHApJApNYApTAqHApDApNApPAqHApBApMApTSArHApDZApWApZHAqAp-ApYA
    pRApLApSHAqApHApA=11C92iSUBJOINED_LETTER_KAzbHAzGAzNGAzCAzbHAzJAzNYAzTAzbHAzDAzNAzPAzbHAzBAzMA
    zTSAzcHAzDZAzWAzZHAzbA=11CA9zYAzRAzLAzSHAzbAzHAzAiVOWEL_SIGN_AAtItUtEtOiSIGN_ANUSVARAnCANDRABI
    NDU=11D00cSARAM_GONDI_LETTER_AwAvIwIvUwUvE=11D08vAIvO=11D0BvAUvKAwHAvGAwHAvNGAvCAwHAvJAwHAvNYA
    vTTAxHAvDDAxHAvNNAvTAwHAvDAwHAvNAvPAwHAvBAwHAvMAvYAvRAvLAvVAvSHAwSAwAvHAvLLAvKSSAvJNYAvTRAoVOW
    EL_SIGN_AAzIzbIzUzbUzVOCALIC_R=11D3AzE=11D3CzAIzO=11D3FzAUoSIGN_ANUSVARAtVISARGAtNUKTAtCANDRAt
    HALANTAoVIRAMAoREPHApA-KARA=11D50oDIGIT_ZEROuONEuTWOvHREEuFOURvIVEuSIXvEVENuEIGHTuNINE=11D60aG
    UNJALA_GONDI_LETTER_AwAvIwIvUwU=11D67vEEvAI=11D6AvOOvAUvYAvVAvBAwHAvMAvKAwHAvTAwHAvLAvGAwHAvDA
    wHAvNAvCAwHAvTTAxHAvLLAvJAwHAvDDAxHAvNGAvPAwHAvHAvRAvSAoVOWEL_SIGN_AAzIzbIzUzbU=11D90zEEzAI=11
    D93zOOzAUoSIGN_ANUSVARAtVISARGAoVIRAMAoOM=11DA0oDIGIT_ZEROuONEuTWOvHREEuFOURvIVEuSIXvEVENuEIGH
    TuNINE=11EE0aMAKASAR_LETTER_KApGApNGApPApBApMApTApDApNApCApJApNYApYApRApLApVApSApAiANGKAiVOWEL
    _SIGN_ItUtEtOiPASSIMBANGiEND_OF_SECTION=11FB0aLISU_LETTER_YHA=11FC0aTAMIL_FRACTION_ONE_THREE-H
    UNDRED-AND-TWENTIETHtONE-HUNDRED-AND-SIXTIETHtEIGHTIETHtSIXTY-FOURTHtFORTIETHtTHIRTY-SECONDpTH
    REE_EIGHTIETHSvSIXTY-FOURTHSpONE_TWENTIETHtSIXTEENTH-1ze2tTENTHtEIGHTHpTHREE_TWENTIETHSvSIXTEE
    NTHSpONE_FIFTHtQUARTERtHALF-1y2pTHREE_QUARTERSpDOWNSCALING_FACTOR_KIIZHgSIGN_NELlCEVITUlAAZHAA
    KKUlUZHAKKUlMUUVUZHAKKUlKURUNIlPATHAKKUlMUKKURUNIlKAACUlPANAMmONlVARAAKANlPAARAMlKUZHIlVELIgWE
    T_CULTIVATION_SIGNgDRY_CULTIVATION_SIGNgLAND_SIGNgSALT_PAN_SIGNgTRADITIONAL_CREDIT_SIGNsNUMBER
    _SIGNgCURRENT_SIGNgAND_ODD_SIGNgSPENT_SIGNgTOTAL_SIGNgIN_POSSESSION_SIGNgSTARTING_FROM_SIGNhIG
    N_MUTHALIYAlVAKAIYARAA=11FFFgPUNCTUATION_END_OF_TEXT"

end Assay.Text
